import Mathlib.Data.Finset.Basic
import Mathlib.Data.List.Basic
import SocialService.App

/-! The login of the Facebook pod: its managers, the access token and the expected challenge that
they all share, and what the system and Facebook answer in any order. The app sets no login
behaviour, so a login is a native one that falls back to the browser; system accounts and the web
dialog take no part in it. -/
namespace SocialService

structure FBSDKAccessToken where
  tokenString : String
  permissions : Finset String
  declinedPermissions : Finset String
  userID : Option String
  deriving DecidableEq

inductive FBSDKLoginError where
  | unknown
  | badChallenge
  | userMismatch
  /-- What the system, Facebook's server or the URL reports. -/
  | reported (error : NSError)
  deriving DecidableEq

structure FBSDKLoginManagerLoginResult where
  token : Option FBSDKAccessToken
  isCancelled : Bool
  grantedPermissions : Finset String := ∅
  declinedPermissions : Finset String := ∅
  deriving DecidableEq

inductive FBSDKLoginManagerState where
  | idle
  | start
  | performingLogin
  deriving DecidableEq, Repr

structure FBSDKLoginManager where
  state : FBSDKLoginManagerState := .idle
  /-- A handler is named by the call of `logIn` that it was given to. -/
  handler : Option Nat := none
  requestedPermissions : Finset String := ∅
  usedSFAuthSession : Bool := false
  deriving DecidableEq

structure FBSDKLoginCompletionParameters where
  accessTokenString : Option String := none
  permissions : Finset String := ∅
  declinedPermissions : Finset String := ∅
  userID : Option String := none
  error : Option FBSDKLoginError := none
  challenge : Option String := none
  deriving DecidableEq

/-- The parameters of a URL of the app's own Facebook scheme; a text that is not there is empty. -/
structure LoginURL where
  accessToken : String := ""
  grantedScopes : String := ""
  deniedScopes : String := ""
  userID : Option String := none
  /-- `signed_request`, if there is one, and the user that it names. -/
  signedRequest : Option (Option String) := none
  /-- `error`, the old name of the reason. -/
  legacyErrorReason : String := ""
  /-- `errorFromReturnURLParameters:` -/
  returnedError : Option NSError := none
  /-- The challenge in `state`. -/
  challenge : Option String := none
  deriving DecidableEq

structure Surroundings where
  isFacebookAppInstalled : Bool
  useNativeDialog : Bool
  useSafariViewController : Bool
  /-- Why there is no `authURL`, if there is none. -/
  noAuthURL : Option NSError
  challenge : String
  browserChallenge : String

inductive OpenError where
  | canceledLogin
  | other (error : NSError)

inductive Pending where
  | opening (manager : Nat) (native : Bool)
  /-- The browser, once the app is active. -/
  | fallingBack (manager : Nat)
  /-- `FBSDKLoginRequestMeAndPermissions` -/
  | reading (manager : Nat) (parameters : FBSDKLoginCompletionParameters)
  | validating (manager : Nat) (currentToken : FBSDKAccessToken)
      (loginResult : FBSDKLoginManagerLoginResult)
  deriving DecidableEq

structure LoginAnswer where
  handler : Nat
  result : Option FBSDKLoginManagerLoginResult
  error : Option FBSDKLoginError
  currentAccessToken : Option FBSDKAccessToken
  deriving DecidableEq

structure FBSDK where
  /-- `FBSDKAccessToken.current()` -/
  currentAccessToken : Option FBSDKAccessToken := none
  /-- `expected_login_challenge` in the keychain store, which outlives the process. -/
  expectedChallenge : Option String := none
  managers : List FBSDKLoginManager := []
  pending : List Pending := []
  answers : List LoginAnswer := []
  /-- The challenges made so far. -/
  made : List String := []
  /-- The challenges that a token has come with. -/
  passed : List String := []
  deriving DecidableEq

def LoginURL.scopes (text : String) : Finset String :=
  if text.length > 0 then (text.splitOn ",").toFinset else ∅

/-- `queryParamsFromLoginURL:` writes the user of the signed request over `user_id`. -/
def LoginURL.queryUserID (url : LoginURL) : Option String := url.signedRequest.join.or url.userID

def LoginURL.parameters (url : LoginURL) : FBSDKLoginCompletionParameters :=
  if url.accessToken.length > 0 then
    { accessTokenString := some url.accessToken
      permissions := scopes url.grantedScopes
      declinedPermissions := scopes url.deniedScopes
      userID :=
        if (url.queryUserID.getD "").length = 0 ∧ url.signedRequest.isSome then
          url.signedRequest.join
        else url.queryUserID
      challenge := url.challenge }
  else { error := url.returnedError.map .reported }

def LoginURL.performExplicitFallback (url : LoginURL) : Bool :=
  url.accessToken.length = 0 ∧ (url.legacyErrorReason = "service_disabled_use_browser" ∨
    url.legacyErrorReason = "service_disabled")

namespace FBSDK

def modify (m : Nat) (change : FBSDKLoginManager → FBSDKLoginManager) (s : FBSDK) : FBSDK :=
  { s with managers := s.managers.modify m change }

def await (pending : Pending) (s : FBSDK) : FBSDK := { s with pending := s.pending ++ [pending] }

def storeExpectedChallenge (challengeExpected : Option String) (s : FBSDK) : FBSDK :=
  { s with
    expectedChallenge := challengeExpected
    made := s.made ++ challengeExpected.toList }

/-- `invokeHandler:error:`. No handler of the app logs in with its own manager again. -/
def invokeHandler (m : Nat) (result : Option FBSDKLoginManagerLoginResult)
    (error : Option FBSDKLoginError) (s : FBSDK) : FBSDK :=
  match s.managers[m]? with
  | none => s
  | some manager =>
    { modify m (fun manager => { manager with state := .idle, handler := none }) s with
      answers := s.answers ++
        manager.handler.toList.map fun handler => ⟨handler,result,error,s.currentAccessToken⟩ }

def handleImplicitCancelOfLogIn (m : Nat) (s : FBSDK) : FBSDK :=
  invokeHandler m (some { token := none, isCancelled := true }) none s

def determineRecentlyGrantedPermissions (currentToken : Option FBSDKAccessToken)
    (requestedPermissions grantedPermissions declinedPermissions : Finset String) :
    Finset String × Finset String :=
  let previouslyGranted := (currentToken.map (·.permissions)).getD ∅
  (if previouslyGranted ≠ ∅ ∧ requestedPermissions ≠ ∅ then
      grantedPermissions ∩ requestedPermissions
    else grantedPermissions,
    requestedPermissions ∩ declinedPermissions)

/-- `completeAuthentication:expectChallenge:`, with a challenge expected. -/
def completeAuthentication (m : Nat) (parameters : FBSDKLoginCompletionParameters) (s : FBSDK) :
    FBSDK :=
  let requestedPermissions := ((s.managers[m]?).map (·.requestedPermissions)).getD ∅
  let challengePassed := s.expectedChallenge.isSome ∧ s.expectedChallenge = parameters.challenge
  let error := if parameters.error = none ∧ parameters.accessTokenString.isSome ∧ ¬challengePassed
    then some .badChallenge else parameters.error
  let cleared := storeExpectedChallenge none s
  match error, parameters.accessTokenString with
  | some error, _ => invokeHandler m none (some error) cleared
  | none, none => invokeHandler m (some { token := none, isCancelled := true }) none cleared
  | none, some tokenString =>
    let (recentlyGranted,recentlyDeclined) := determineRecentlyGrantedPermissions
      s.currentAccessToken requestedPermissions parameters.permissions
      parameters.declinedPermissions
    if recentlyGranted = ∅ then
      let result : FBSDKLoginManagerLoginResult :=
        { token := none, isCancelled := false
          declinedPermissions := if s.currentAccessToken.isSome then recentlyDeclined else ∅ }
      invokeHandler m (some result) none cleared
    else
      let token : FBSDKAccessToken :=
        ⟨tokenString,parameters.permissions,parameters.declinedPermissions,parameters.userID⟩
      let result : FBSDKLoginManagerLoginResult :=
        ⟨some token,false,recentlyGranted,recentlyDeclined⟩
      let accepted := { cleared with passed := cleared.passed ++ parameters.challenge.toList }
      match s.currentAccessToken with
      | some currentToken => await (.validating m currentToken result) accepted
      | none => invokeHandler m (some result) none { accepted with currentAccessToken := token }

def validated (m : Nat) (currentToken : FBSDKAccessToken)
    (loginResult : FBSDKLoginManagerLoginResult) (actualID : Option String) (s : FBSDK) : FBSDK :=
  if currentToken.userID.isSome ∧ currentToken.userID = actualID then
    invokeHandler m (some loginResult) none { s with currentAccessToken := loginResult.token }
  else invokeHandler m none (some .userMismatch) s

def completion (m : Nat) (didPerformLogIn : Bool) (error : Option OpenError) (s : FBSDK) : FBSDK :=
  if didPerformLogIn then modify m (fun manager => { manager with state := .performingLogin }) s
  else match error with
    | some .canceledLogin => handleImplicitCancelOfLogIn m s
    | some (.other error) => invokeHandler m none (some (.reported error)) s
    | none => invokeHandler m none (some .unknown) s

def performBrowserLogIn (m : Nat) (around : Surroundings) (s : FBSDK) : FBSDK :=
  match around.noAuthURL with
  | some error => completion m false (some (.other error)) s
  | none =>
    let asked := if around.useSafariViewController then
      modify m (fun manager => { manager with usedSFAuthSession := true }) s else s
    await (.opening m false) asked

/-- `logInWithBehavior:` begins with a new challenge, in `logInParametersWithPermissions:…`. -/
def logInParameters (m : Nat) (challenge : String) (s : FBSDK) : FBSDK :=
  modify m (fun manager => { manager with usedSFAuthSession := false })
    (storeExpectedChallenge challenge s)

def logInWithBrowser (m : Nat) (around : Surroundings) (s : FBSDK) : FBSDK :=
  performBrowserLogIn m around (logInParameters m around.browserChallenge s)

def logInWithNative (m : Nat) (around : Surroundings) (s : FBSDK) : FBSDK :=
  let begun := logInParameters m around.challenge s
  if around.isFacebookAppInstalled then
    if around.useNativeDialog then await (.opening m true) begun
    else logInWithBrowser m around begun
  else performBrowserLogIn m around begun

def logInWithPermissions (m : Nat) (permissions : List String) (handler : Nat)
    (around : Surroundings) (s : FBSDK) : FBSDK :=
  logInWithNative m around <| modify m (fun manager =>
    { manager with handler := some handler, requestedPermissions := permissions.toFinset }) s

/-- `validateLoginStartState`: whether the login may start, and the state that it leaves. -/
def validateLoginStartState (m : Nat) (s : FBSDK) : Bool × FBSDK :=
  match s.managers[m]? with
  | none => (false,s)
  | some manager =>
    match manager.state with
    | .start => (manager.usedSFAuthSession,s)
    | .performingLogin => (true,handleImplicitCancelOfLogIn m s)
    | .idle => (true,modify m (fun manager => { manager with state := .start }) s)

/-- `logInWithReadPermissions:fromViewController:handler:`. The exceptions of `assertPermissions`
and of the check for read permissions are left out: `email` and `public_profile` raise neither. -/
def logInWithReadPermissions (m : Nat) (permissions : List String) (handler : Nat)
    (around : Surroundings) (s : FBSDK) : FBSDK :=
  match validateLoginStartState m s with
  | (true,s) => logInWithPermissions m permissions handler around s
  | (false,s) => s

def completeLogIn (m : Nat) (url : LoginURL) (s : FBSDK) : FBSDK :=
  let parameters := url.parameters
  if url.performExplicitFallback then await (.fallingBack m) s
  else if parameters.accessTokenString.isSome ∧ parameters.userID = none then
    await (.reading m parameters) s
  else completeAuthentication m parameters s

/-- `application:openURL:…`, with no parameters for a URL that is not the answer of Facebook. -/
def openURL (m : Nat) (url : Option LoginURL) (s : FBSDK) : FBSDK :=
  match url with
  | some url => completeLogIn m url s
  | none =>
    if (s.managers[m]?).map (·.state) = some .performingLogin then handleImplicitCancelOfLogIn m s
    else s

def applicationDidBecomeActive (m : Nat) (s : FBSDK) : FBSDK :=
  if (s.managers[m]?).map (·.state) = some .performingLogin then handleImplicitCancelOfLogIn m s
  else s

structure MeAndPermissions where
  userID : Option String
  userError : Option NSError
  permissions : Finset String
  declinedPermissions : Finset String
  permissionsError : Option NSError

/-- The two completions of `FBSDKLoginRequestMeAndPermissions`, of which the later error stays. -/
def MeAndPermissions.into (answer : MeAndPermissions)
    (parameters : FBSDKLoginCompletionParameters) : FBSDKLoginCompletionParameters :=
  { parameters with
    userID := answer.userID
    permissions := answer.permissions
    declinedPermissions := answer.declinedPermissions
    error := ((answer.permissionsError.or answer.userError).map .reported).or parameters.error }

inductive Event where
  /-- A URL that launches the app makes a manager of its own. -/
  | launched
  | opened (index : Nat) (openedURL : Bool) (error : Option OpenError) (around : Surroundings)
  | fellBack (index : Nat) (around : Surroundings)
  | read (index : Nat) (answer : MeAndPermissions)
  | validated (index : Nat) (actualID : Option String)
  | openURL (manager : Nat) (url : Option LoginURL)
  | becameActive (manager : Nat)
  /-- Another part of the pod refreshes the token, or drops it. -/
  | setCurrentAccessToken (token : Option FBSDKAccessToken)

def close (index : Nat) (s : FBSDK) : FBSDK := { s with pending := s.pending.eraseIdx index }

def handle (s : FBSDK) : Event → FBSDK
  | .launched => { s with managers := s.managers ++ [{}] }
  | .opened index openedURL error around =>
    match s.pending[index]? with
    | some (.opening m native) =>
      if native ∧ openedURL = false then logInWithBrowser m around (close index s)
      else completion m openedURL error (close index s)
    | _ => s
  | .fellBack index around =>
    match s.pending[index]? with
    | some (.fallingBack m) => logInWithBrowser m around (close index s)
    | _ => s
  | .read index answer =>
    match s.pending[index]? with
    | some (.reading m parameters) =>
      completeAuthentication m (answer.into parameters) (close index s)
    | _ => s
  | .validated index actualID =>
    match s.pending[index]? with
    | some (.validating m currentToken loginResult) =>
      validated m currentToken loginResult actualID (close index s)
    | _ => s
  | .openURL m url => openURL m url s
  | .becameActive m => applicationDidBecomeActive m s
  | .setCurrentAccessToken token => { s with currentAccessToken := token }

/-- The library as a machine: its callers log in, with any manager and any number of times. -/
inductive Input where
  | made
  | logIn (manager : Nat) (permissions : List String) (handler : Nat) (around : Surroundings)
  | event (event : Event)

def step (s : FBSDK) : Input → FBSDK
  | .made => { s with managers := s.managers ++ [{}] }
  | .logIn m permissions handler around => logInWithReadPermissions m permissions handler around s
  | .event event => handle s event

end FBSDK
end SocialService
