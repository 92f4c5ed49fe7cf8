import SocialService.Credentials
import SocialService.KeychainAccess

/-! Runs of the wrapper: what the app reads is what it would read from a map, less what the system
has refused. -/
namespace SocialService.KeychainAccess

/-! ### The wrapper as a map of texts -/

inductive Access where
  | read (service key : String)
  | write (service key : String) (newValue : Option String)

def Access.on (service : String) (store : SocialService.Keychain) : Access → SocialService.Keychain
  | .read _ _ => store
  | .write owner key newValue =>
    if owner = service then Function.update store key newValue else store

namespace Device

def step (device : Device) : Access → Device
  | .read service key => ((Keychain.mk service).subscriptGet key device).2
  | .write service key newValue => (Keychain.mk service).subscriptSet key newValue device

/-- The setter needs two calls to be served, or one, when it removes. -/
def serves (device : Device) (query : Query) : Option String → Bool
  | some _ => device.takes query
  | none => device.refusal.isNone

/-- The writes that are served. The app is told of none that is not. -/
def taken (device : Device) : Access → List Access
  | .read _ _ => []
  | .write service key newValue =>
    if device.serves ⟨service,key⟩ newValue then [.write service key newValue] else []

theorem texts_of_lookup (query : Query) {device : Device} {items : Items} {value : Option String}
    (here : (items.lookup query).bind String.fromUTF8? = value)
    (elsewhere : ∀ other, other ≠ query → items.lookup other = device.items.lookup other)
    (refusals : List (Option Refusal)) (service : String) :
    texts ⟨items,refusals⟩ service =
      (Access.write query.service query.account value).on service (device.texts service) := by
  obtain ⟨owner,account⟩ := query
  funext key
  by_cases same : (⟨service,key⟩ : Query) = ⟨owner,account⟩
  · obtain ⟨rfl,rfl⟩ := Query.mk.inj same
    simp only [Access.on,if_true,Function.update_self]
    exact here
  · have kept : texts ⟨items,refusals⟩ service key = device.texts service key := by
      simp only [texts,elsewhere _ same]
    rw [kept,Access.on]
    split
    · have other : key ≠ account := by
        rintro rfl
        simp_all
      rw [Function.update_of_ne other]
    · rfl

end Device

def assigned (items : Items) (query : Query) : Option String → Items
  | some value => items.insert query value.toUTF8
  | none => items.erase query

theorem Keychain.assign_does (self : Keychain) (key : String) (newValue : Option String)
    (device : Device) : Does (self.assign key newValue) device
      (device.serves (self.query key) newValue)
      (assigned device.items (self.query key) newValue) := by
  cases newValue with
  | some value => exact self.setData_does value.toUTF8 key device
  | none => exact self.remove_does key device

namespace Device
open EventMachine

theorem assigned_texts (device : Device) (query : Query) (newValue : Option String)
    (refusals : List (Option Refusal)) (service : String) :
    texts ⟨assigned device.items query newValue,refusals⟩ service =
      (Access.write query.service query.account newValue).on service (device.texts service) := by
  apply texts_of_lookup
  · cases newValue with
    | some value =>
      rw [assigned,AList.lookup_insert]
      exact fromUTF8_toUTF8 value
    | none =>
      rw [assigned,AList.lookup_erase]
      rfl
  · intro other different
    cases newValue with
    | some value => exact AList.lookup_insert_ne different
    | none => exact AList.lookup_erase_ne different

theorem step_texts (device : Device) (access : Access) (service : String) :
    (device.step access).texts service =
      run (Access.on service) (device.texts service) (device.taken access) := by
  cases access with
  | read owner key =>
    rw [step,Keychain.subscriptGet_eq]
    rfl
  | write owner key newValue =>
    obtain ⟨refusals,_,does⟩ := (Keychain.mk owner).assign_does key newValue device
    simp only [step,Keychain.subscriptSet,attempt,taken]
    change if device.serves ⟨owner,key⟩ newValue = true then _ else _ at does
    split at does
    · rename_i served
      rw [does,if_pos served]
      exact device.assigned_texts _ newValue refusals service
    · rename_i refused
      obtain ⟨status,ran⟩ := does
      rw [ran,if_neg refused]
      rfl

theorem run_texts (device : Device) (accesses : List Access) (service : String) :
    (run step device accesses).texts service =
      run (Access.on service) (device.texts service) (emitted step taken device accesses) := by
  have keeps (device : Device) (store : SocialService.Keychain) (access : Access)
      (same : device.texts service = store) (_ : True) :
      (device.step access).texts service =
        run (Access.on service) store (device.taken access) := by
    rw [← same]
    exact device.step_texts access service
  exact run_simulated keeps accesses (fun _ _ => trivial) rfl

/-- Whatever the system refuses and however the services take turns, a read of the subscript that is
not refused itself gives what a map would, into which the writes of its own service were made that
the system has served: no write takes place in part, and none reaches another service. -/
theorem subscript_refines (device : Device) (accesses : List Access) (service key : String) :
    let after := run step device accesses
    let store := run (Access.on service) (device.texts service)
      (emitted step taken device accesses)
    ((Keychain.mk service).subscriptGet key after).1 =
      if after.refusal.isSome then none else store key := by
  intro after store
  rw [Keychain.subscriptGet_eq,run_texts]

/-! ### What a submission reads -/

def ifLet (key : String) (next : String → Device → Option α × Device) (device : Device) :
    Option α × Device :=
  match (Keychain.mk "https://firebase.google.com/").subscriptGet key device with
  | (none,after) => (none,after)
  | (some value,after) => next value after

/-- The three reads of `FormTableController.prepare`, each made only after the one before it. -/
def readIdentity : Device → Option Identity × Device :=
  ifLet "name" fun name => ifLet "password" fun password => ifLet "email" fun email after =>
    (some ⟨name,password,email⟩,after)

def refusesRead (device : Device) : Bool :=
  device.refusal.isSome || device.later.refusal.isSome || device.later.later.refusal.isSome

theorem ifLet_eq (key : String) (next : String → Device → Option α × Device) (device : Device) :
    (ifLet key next device).1 =
      if device.refusal.isSome then none
      else (device.texts "https://firebase.google.com/" key).bind
        fun value => (next value device.later).1 := by
  rw [ifLet,Keychain.subscriptGet_eq]
  cases device.refusal.isSome with
  | true => rfl
  | false => cases device.texts "https://firebase.google.com/" key <;> rfl

theorem readIdentity_eq (device : Device) : (readIdentity device).1 =
    if device.refusesRead then none
    else (device.texts "https://firebase.google.com/").identity := by
  have texts (device : Device) (service : String) :
      device.later.texts service = device.texts service := rfl
  simp only [readIdentity,ifLet_eq,texts,SocialService.Keychain.identity]
  cases first : device.refusal.isSome with
  | true => simp [refusesRead,first]
  | false =>
    cases device.texts "https://firebase.google.com/" "name" with
    | none => simp
    | some name =>
      cases second : device.later.refusal.isSome with
      | true => simp [refusesRead,second]
      | false =>
        cases device.texts "https://firebase.google.com/" "password" with
        | none => simp
        | some password =>
          cases third : device.later.later.refusal.isSome with
          | true => simp [refusesRead,third]
          | false =>
            cases device.texts "https://firebase.google.com/" "email" <;>
              simp [refusesRead,first,second,third]

/-- Whatever was saved, removed and refused before, the three reads of a submission give the
identity that a map of the served writes holds, or none, when one of the three is refused. -/
theorem identity_read_whole (device : Device) (accesses : List Access) :
    let after := run step device accesses
    let store := run (Access.on "https://firebase.google.com/")
      (device.texts "https://firebase.google.com/") (emitted step taken device accesses)
    (readIdentity after).1 = if after.refusesRead then none else store.identity := by
  intro after store
  rw [readIdentity_eq,run_texts]

/-! ### Saved users on the device -/

def Granted (device : Device) : Prop := ∀ refusal ∈ device.refusals, refusal = none

theorem Granted.refusal {device : Device} (granted : device.Granted) : device.refusal = none := by
  obtain ⟨items,refusals⟩ := device
  match refusals with
  | [] => rfl
  | first :: later => exact granted first List.mem_cons_self

theorem Granted.later {device : Device} (granted : device.Granted) : device.later.Granted :=
  fun refusal member => granted refusal (List.mem_of_mem_tail member)

/-- A device that refuses nothing takes every string. -/
theorem write_granted {device : Device} (granted : device.Granted) (owner key value : String) :
    (device.step (.write owner key (some value))).Granted ∧
      device.taken (.write owner key (some value)) = [.write owner key (some value)] := by
  have served : device.serves ⟨owner,key⟩ (some value) = true := by
    rw [serves,takes,granted.refusal,granted.later.refusal]
    rfl
  obtain ⟨refusals,left,does⟩ := (Keychain.mk owner).assign_does key (some value) device
  have ran := (if_pos served).mp does
  refine ⟨?_,if_pos served⟩
  intro refusal member
  simp only [step,Keychain.subscriptSet,attempt,ran] at member
  exact granted refusal (left.subset member)

theorem writes_granted {device : Device} (granted : device.Granted) (owner : String)
    (entries : List (String × String)) :
    let writes := entries.map fun entry => Access.write owner entry.1 (some entry.2)
    (run step device writes).Granted ∧ ∀ service, (run step device writes).texts service =
      run (Access.on service) (device.texts service) writes := by
  induction entries generalizing device with
  | nil => exact ⟨granted,fun _ => rfl⟩
  | cons entry rest ih =>
    obtain ⟨still,taken⟩ := write_granted granted owner entry.1 entry.2
    obtain ⟨later,texts⟩ := ih still
    refine ⟨later,?_⟩
    intro service
    simp only [List.map_cons,run_cons]
    rw [texts,step_texts,taken,run_cons,run_nil]

def saveUserIntoKeychain (call : Identity) : List Access :=
  [(call.name,call.password),("name",call.name),("password",call.password),("email",call.email)].map
    fun entry => .write "https://firebase.google.com/" entry.1 (some entry.2)

theorem saves_on (service : String) (store : SocialService.Keychain) (call : Identity) :
    run (Access.on service) store (saveUserIntoKeychain call) =
      if service = "https://firebase.google.com/" then
        store.saveUser call.name call.password call.email
      else store := by
  by_cases own : service = "https://firebase.google.com/"
  · subst own
    rfl
  · have other : "https://firebase.google.com/" ≠ service := Ne.symm own
    simp [saveUserIntoKeychain,Access.on,own,other]

theorem saves_granted {device : Device} (granted : device.Granted) (calls : List Identity) :
    let after := run step device (calls.flatMap saveUserIntoKeychain)
    after.Granted ∧ ∀ service, after.texts service =
      if service = "https://firebase.google.com/" then
        SocialService.Keychain.saves (device.texts service) calls
      else device.texts service := by
  induction calls generalizing device with
  | nil => exact ⟨granted,fun _ => (ite_self _).symm⟩
  | cons call rest ih =>
    obtain ⟨still,saved⟩ : (run step device (saveUserIntoKeychain call)).Granted ∧
        ∀ service, (run step device (saveUserIntoKeychain call)).texts service =
          run (Access.on service) (device.texts service) (saveUserIntoKeychain call) :=
      writes_granted granted _ _
    obtain ⟨later,texts⟩ := ih still
    rw [List.flatMap_cons,run_append]
    refine ⟨later,?_⟩
    intro service
    rw [texts,saved,saves_on]
    split <;> rfl

/-- On a device that refuses nothing, the saves of a run leave in the service of the app what the
map of the credentials would hold, and in every other service what was there. -/
theorem saves_refine (device : Device) (granted : device.Granted) (calls : List Identity)
    (service : String) :
    (run step device (calls.flatMap saveUserIntoKeychain)).texts service =
      if service = "https://firebase.google.com/" then
        SocialService.Keychain.saves (device.texts service) calls
      else device.texts service :=
  (saves_granted granted calls).2 service

/-- Two users saved on an empty device, read from the service of the app. -/
theorem two_saves_refine :
    let device : Device := ⟨∅,[]⟩
    let calls : List Identity := [⟨"Ana","secret","ana@abv.bg"⟩,⟨"Boris","hidden","boris@abv.bg"⟩]
    (run step device (calls.flatMap saveUserIntoKeychain)).texts "https://firebase.google.com/" =
      SocialService.Keychain.saves (device.texts "https://firebase.google.com/") calls :=
  saves_refine ⟨∅,[]⟩ (fun _ member => (List.not_mem_nil member).elim) _
    "https://firebase.google.com/"

end Device
end SocialService.KeychainAccess
