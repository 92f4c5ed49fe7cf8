import Mathlib.Logic.Function.Basic
import SocialService.Library.Trapping
import SocialService.Model
import SocialService.SwiftyJSON

/-! The state that outlives a screen: the keychain, the Firebase session and the Firestore
documents. Reads return what was last written. -/
namespace SocialService

inductive Trap where
  | forcedUnwrap (expression : String)
  | forcedCast (expression : String)
  | noViewController (identifier : String)
  deriving DecidableEq, Repr

def unwrap (expression : String) (value : Option α) : EStateM Trap σ α :=
  Trapping.force (.forcedUnwrap expression) value

abbrev Keychain := String → Option String

def Keychain.set (keychain : Keychain) (key value : String) : Keychain :=
  Function.update keychain key (some value)

@[simp] theorem Keychain.set_same (keychain : Keychain) (key value : String) :
    keychain.set key value key = some value := by simp [set]

@[simp] theorem Keychain.set_other (keychain : Keychain) (key value other : String)
    (different : other ≠ key) : keychain.set key value other = keychain other := by
  simp [set,different]

/-- The body of `saveUserIntoKeychain`, the same in both controllers. -/
def Keychain.saveUser (keychain : Keychain) (name password email : String) : Keychain :=
  (((keychain.set name password).set "name" name).set "password" password).set "email" email

/-- Name, password and e-mail, as the fixed keychain entries hold them. -/
structure Identity where
  name : String
  password : String
  email : String
  deriving DecidableEq, Repr

def Keychain.identity (keychain : Keychain) : Option Identity :=
  match keychain "name", keychain "password", keychain "email" with
  | some name, some password, some email => some ⟨name,password,email⟩
  | _, _, _ => none

@[simp] theorem Keychain.saveUser_name (keychain : Keychain) (name password email : String) :
    keychain.saveUser name password email "name" = some name := by simp [saveUser]

@[simp] theorem Keychain.saveUser_password (keychain : Keychain) (name password email : String) :
    keychain.saveUser name password email "password" = some password := by simp [saveUser]

@[simp] theorem Keychain.saveUser_email (keychain : Keychain) (name password email : String) :
    keychain.saveUser name password email "email" = some email := by simp [saveUser]

@[simp] theorem Keychain.identity_saveUser (keychain : Keychain) (name password email : String) :
    (keychain.saveUser name password email).identity = some ⟨name,password,email⟩ := by
  simp [identity]

/-- A Firebase account. The app reads only the uid; the identity is the one that the account was
opened with. -/
structure Account where
  uid : String
  identity : Identity
  deriving DecidableEq, Repr

abbrev Document := List (String × AnyValue)

/-- `snapshot.data` is absent when there is no such document. -/
structure DocumentSnapshot where
  documentID : String
  data : Option Document

/-- A snapshot passed as `Any` stays an instance of its own class. -/
def DocumentSnapshot.asAny (_ : DocumentSnapshot) : AnyValue := .object "DocumentSnapshot"

structure World where
  keychain : Keychain
  /-- `Auth.auth().currentUser` -/
  currentUser : Option Account
  /-- `users/<uid>` -/
  users : String → Option Document
  /-- Documents added under `users/<uid>/Forms`, oldest first. -/
  forms : List (String × Document)

/-- A new device: nobody is signed in and nothing is stored. -/
def World.blank : World where
  keychain := fun _ => none
  currentUser := none
  users := fun _ => none
  forms := []

def World.signedIn (account : Account) : World :=
  { World.blank with
    keychain := World.blank.keychain.saveUser account.identity.name account.identity.password
      account.identity.email
    currentUser := some account }

def World.setData (world : World) (uid : String) (data : Document) : World :=
  { world with users := Function.update world.users uid (some data) }

def World.addDocument (world : World) (uid : String) (data : Document) : World :=
  { world with forms := world.forms ++ [(uid,data)] }

end SocialService
