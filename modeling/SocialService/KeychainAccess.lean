import Mathlib.Data.List.AList
import SocialService.Services

/-! `KeychainAccess` over the generic passwords of the device. The subscript drops every error, so
the app cannot tell a write that the system has refused from one that it has served. -/
namespace SocialService.KeychainAccess

/-- The cases of `Status` that the wrapper tells apart, or makes. -/
inductive Status where
  | success
  | duplicateItem
  | itemNotFound
  | interactionNotAllowed
  | conversionError
  | unexpectedError
  | other (status : Int)
  deriving DecidableEq

/-- Why the system does not serve a call: the device is locked, or anything else. -/
inductive Refusal where
  | interactionNotAllowed
  | other (status : Int)
  deriving DecidableEq

def Refusal.status : Refusal → Status
  | interactionNotAllowed => .interactionNotAllowed
  | other status => .other status

structure Query where
  service : String
  account : String
  deriving DecidableEq

/-- The device has one item at most for a service and an account. -/
abbrev Items := AList fun _ : Query => ByteArray

structure Device where
  items : Items
  /-- What becomes of the next calls; a call that is not listed is served. -/
  refusals : List (Option Refusal)

abbrev Throws := EStateM Status Device

/-! ### The Security framework -/

def call (refused : Refusal → α) (served : Items → α × Items) : Throws α :=
  modifyGet fun device =>
    match device.refusals with
    | some refusal :: later => (refused refusal,⟨device.items,later⟩)
    | _ =>
      let (answer,items) := served device.items
      (answer,⟨items,device.refusals.tail⟩)

/-- As documented: the data of the item that the query matches, or `errSecItemNotFound`. -/
def secItemCopyMatching (query : Query) : Throws (Status × Option ByteArray) :=
  call (fun refusal => (refusal.status,none)) fun items =>
    match items.lookup query with
    | some data => ((.success,some data),items)
    | none => ((.itemNotFound,none),items)

/-- As documented: the item that the query matches gets the new data. -/
def secItemUpdate (query : Query) (value : ByteArray) : Throws Status :=
  call Refusal.status fun items =>
    if query ∈ items then (.success,items.insert query value) else (.itemNotFound,items)

/-- As documented: a second item of a service and an account is `errSecDuplicateItem`. -/
def secItemAdd (query : Query) (value : ByteArray) : Throws Status :=
  call Refusal.status fun items =>
    if query ∈ items then (.duplicateItem,items) else (.success,items.insert query value)

/-- As documented: the item that the query matches is deleted. -/
def secItemDelete (query : Query) : Throws Status :=
  call Refusal.status fun items =>
    if query ∈ items then (.success,items.erase query) else (.itemNotFound,items)

/-! ### The wrapper -/

def throwUnlessSuccess (action : Throws Status) : Throws Unit := do
  let status ← action
  if status ≠ .success then throw status

structure Keychain where
  service : String

namespace Keychain

def query (self : Keychain) (key : String) : Query := ⟨self.service,key⟩

def getData (self : Keychain) (key : String) : Throws (Option ByteArray) := do
  match ← secItemCopyMatching (self.query key) with
  | (.success,some data) => return some data
  | (.success,none) => throw .unexpectedError
  | (.itemNotFound,_) => return none
  | (status,_) => throw status

def getString (self : Keychain) (key : String) : Throws (Option String) := do
  match ← self.getData key with
  | none => return none
  | some data =>
    match String.fromUTF8? data with
    | some string => return some string
    | none => throw .conversionError

/-- The `switch` of `set(_:key:)`. An item that only a prompt could read is updated all the same. -/
def setMatched (self : Keychain) (value : ByteArray) (key : String) : Status → Throws Unit
  | .success | .interactionNotAllowed => throwUnlessSuccess (secItemUpdate (self.query key) value)
  | .itemNotFound => throwUnlessSuccess (secItemAdd (self.query key) value)
  | status => throw status

def setData (self : Keychain) (value : ByteArray) (key : String) : Throws Unit := do
  self.setMatched value key (← secItemCopyMatching (self.query key)).1

/-- Every string has a UTF-8 encoding. -/
def set (self : Keychain) (value key : String) : Throws Unit := self.setData value.toUTF8 key

def remove (self : Keychain) (key : String) : Throws Unit := do
  let status ← secItemDelete (self.query key)
  if status ≠ .success ∧ status ≠ .itemNotFound then throw status

def assign (self : Keychain) (key : String) : Option String → Throws Unit
  | some value => self.set value key
  | none => self.remove key

end Keychain

/-- `try?` and the empty `catch`: what has been computed, and the device all the same. -/
def attempt (action : Throws α) (device : Device) : Option α × Device :=
  match action.run device with
  | .ok value after => (some value,after)
  | .error _ after => (none,after)

namespace Keychain

def subscriptGet (self : Keychain) (key : String) (device : Device) : Option String × Device :=
  let (answer,after) := attempt (self.getString key) device
  (answer.join,after)

def subscriptSet (self : Keychain) (key : String) (newValue : Option String) (device : Device) :
    Device := (attempt (self.assign key newValue) device).2

end Keychain

/-! ### What a call does -/

def Device.refusal (device : Device) : Option Refusal := device.refusals.head?.join

def Device.later (device : Device) : Device := { device with refusals := device.refusals.tail }

def Answers (action : Throws α) (device : Device) (answer : α) (items : Items) : Prop :=
  action.run device = .ok answer { device.later with items }

theorem Answers.run {action : Throws α} {device : Device} {answer : α} {items : Items}
    (answers : Answers action device answer items) :
    action.run device = .ok answer { device.later with items } := answers

theorem call_refused {device : Device} {refusal : Refusal} (refuses : device.refusal = some refusal)
    (refused : Refusal → α) (served : Items → α × Items) :
    Answers (call refused served) device (refused refusal) device.items := by
  obtain ⟨items,refusals⟩ := device
  match refusals with
  | some first :: later =>
    obtain rfl : first = refusal := Option.some.inj refuses
    rfl
  | none :: later => simp [Device.refusal] at refuses
  | [] => simp [Device.refusal] at refuses

theorem call_served {device : Device} (serves : device.refusal = none)
    (refused : Refusal → α) (served : Items → α × Items) :
    Answers (call refused served) device (served device.items).1 (served device.items).2 := by
  obtain ⟨items,refusals⟩ := device
  match refusals with
  | some first :: later => simp [Device.refusal] at serves
  | none :: later => rfl
  | [] => rfl

theorem refusal_status_ne (refusal : Refusal) :
    refusal.status ≠ .success ∧ refusal.status ≠ .itemNotFound := by
  cases refusal <;> simp [Refusal.status]

theorem secItemCopyMatching_served {device : Device} (serves : device.refusal = none)
    (query : Query) :
    Answers (secItemCopyMatching query) device
      ((device.items.lookup query).elim (.itemNotFound,none) fun data => (.success,some data))
      device.items := by
  have served : Answers (secItemCopyMatching query) device _ _ := call_served serves _ _
  cases found : device.items.lookup query with
  | none =>
    simp only [found] at served
    exact served
  | some data =>
    simp only [found] at served
    exact served

/-! ### What the wrapper does -/

def Device.texts (device : Device) (service : String) : SocialService.Keychain := fun key =>
  (device.items.lookup ⟨service,key⟩).bind String.fromUTF8?

@[simp] theorem fromUTF8_toUTF8 (value : String) : String.fromUTF8? value.toUTF8 = some value := by
  simp [String.fromUTF8?,String.isValidUTF8,String.fromUTF8]

/-- A read gives what the device holds, unless it is refused, and changes no item. -/
theorem Keychain.subscriptGet_eq (self : Keychain) (key : String) (device : Device) :
    self.subscriptGet key device =
      (if device.refusal.isSome then none else device.texts self.service key,device.later) := by
  unfold subscriptGet attempt getString getData
  cases refuses : device.refusal with
  | some refusal =>
    have refused : Answers (secItemCopyMatching (self.query key)) device _ _ :=
      call_refused refuses _ _
    simp only [EStateM.run_bind,refused.run]
    cases refusal <;> rfl
  | none =>
    have served := secItemCopyMatching_served refuses (self.query key)
    simp only [EStateM.run_bind,served.run,Device.texts]
    change _ = ((device.items.lookup (self.query key)).bind _,_)
    cases device.items.lookup (self.query key) with
    | none => rfl
    | some data =>
      simp only [Option.elim_some,EStateM.run_pure,Option.bind_some]
      cases String.fromUTF8? data <;> rfl

/-- An action that does all of its work, when it is served, and else throws and does none of it. -/
def Does (action : Throws Unit) (device : Device) (served : Bool) (items : Items) : Prop :=
  ∃ refusals, refusals <:+ device.refusals ∧
    if served then action.run device = .ok () ⟨items,refusals⟩
    else ∃ status, action.run device = .error status ⟨device.items,refusals⟩

theorem Does.ok {action : Throws Unit} {device : Device} {items : Items} {refusals}
    (left : refusals <:+ device.refusals) (run : action.run device = .ok () ⟨items,refusals⟩) :
    Does action device true items := ⟨refusals,left,run⟩

theorem Does.error {action : Throws Unit} {device : Device} {items : Items} {refusals}
    {status : Status} (left : refusals <:+ device.refusals)
    (run : action.run device = .error status ⟨device.items,refusals⟩) :
    Does action device false items := ⟨refusals,left,status,run⟩

theorem throwUnlessSuccess_ok {action : Throws Status} {device : Device} {items : Items}
    (answers : Answers action device .success items) :
    (throwUnlessSuccess action).run device = .ok () ⟨items,device.later.refusals⟩ := by
  rw [throwUnlessSuccess,EStateM.run_bind,answers.run]
  rfl

theorem throwUnlessSuccess_error {action : Throws Status} {device : Device} {items : Items}
    {status : Status} (answers : Answers action device status items) (failed : status ≠ .success) :
    (throwUnlessSuccess action).run device = .error status ⟨items,device.later.refusals⟩ := by
  simp only [throwUnlessSuccess,EStateM.run_bind,answers.run,failed,ne_eq,not_false_eq_true,
    if_true]
  rfl

theorem update_does (query : Query) (value : ByteArray) (device : Device) :
    Does (throwUnlessSuccess (secItemUpdate query value)) device
      (device.refusal.isNone && decide (query ∈ device.items))
      (device.items.insert query value) := by
  have left := List.tail_suffix device.refusals
  cases refuses : device.refusal with
  | some refusal =>
    have refused : Answers (secItemUpdate query value) device _ _ := call_refused refuses _ _
    exact .error left (throwUnlessSuccess_error refused (refusal_status_ne refusal).1)
  | none =>
    have served : Answers (secItemUpdate query value) device _ _ := call_served refuses _ _
    by_cases present : query ∈ device.items
    · simp only [if_pos present] at served
      rw [decide_eq_true present]
      exact .ok left (throwUnlessSuccess_ok served)
    · simp only [if_neg present] at served
      rw [decide_eq_false present]
      exact .error left (throwUnlessSuccess_error served nofun)

theorem add_does (query : Query) (value : ByteArray) (device : Device)
    (absent : query ∉ device.items) :
    Does (throwUnlessSuccess (secItemAdd query value)) device device.refusal.isNone
      (device.items.insert query value) := by
  have left := List.tail_suffix device.refusals
  cases refuses : device.refusal with
  | some refusal =>
    have refused : Answers (secItemAdd query value) device _ _ := call_refused refuses _ _
    exact .error left (throwUnlessSuccess_error refused (refusal_status_ne refusal).1)
  | none =>
    have served : Answers (secItemAdd query value) device _ _ := call_served refuses _ _
    simp only [if_neg absent] at served
    exact .ok left (throwUnlessSuccess_ok served)

/-- A write needs two calls to be served. The first may be refused for want of a prompt, when the
item is there. -/
def Device.takes (device : Device) (query : Query) : Bool :=
  match device.refusal with
  | none => device.later.refusal.isNone
  | some .interactionNotAllowed => device.later.refusal.isNone && decide (query ∈ device.items)
  | some (.other _) => false

theorem Keychain.setData_of_matched (self : Keychain) (value : ByteArray) (key : String)
    {device : Device} {status : Status} {data : Option ByteArray} {served : Bool} {items : Items}
    (matched : Answers (secItemCopyMatching (self.query key)) device (status,data) device.items)
    (does : Does (self.setMatched value key status) device.later served items) :
    Does (self.setData value key) device served items := by
  obtain ⟨refusals,left,run⟩ := does
  refine ⟨refusals,left.trans (List.tail_suffix _),?_⟩
  simp only [setData,EStateM.run_bind,matched.run]
  exact run

theorem Keychain.setData_does (self : Keychain) (value : ByteArray) (key : String)
    (device : Device) : Does (self.setData value key) device (device.takes (self.query key))
      (device.items.insert (self.query key) value) := by
  have update := update_does (self.query key) value device.later
  unfold Device.takes
  cases refuses : device.refusal with
  | none =>
    have matched := secItemCopyMatching_served refuses (self.query key)
    cases found : device.items.lookup (self.query key) with
    | some data =>
      rw [found] at matched
      have present : self.query key ∈ device.later.items :=
        AList.lookup_isSome.mp (Option.isSome_of_eq_some found)
      rw [decide_eq_true present,Bool.and_true] at update
      exact self.setData_of_matched value key matched update
    | none =>
      rw [found] at matched
      have absent : self.query key ∉ device.later.items := AList.lookup_eq_none.mp found
      have add := add_does (self.query key) value device.later absent
      exact self.setData_of_matched value key matched add
  | some refusal =>
    have refused : Answers (secItemCopyMatching (self.query key)) device _ _ :=
      call_refused refuses _ _
    cases refusal with
    | interactionNotAllowed => exact self.setData_of_matched value key refused update
    | other status =>
      have thrown : (self.setMatched value key (.other status)).run device.later =
          .error (.other status) ⟨device.items,device.later.refusals⟩ := rfl
      exact self.setData_of_matched value key refused (.error List.suffix_rfl thrown)

theorem erase_absent {items : Items} {query : Query} (absent : query ∉ items) :
    items.erase query = items :=
  AList.ext (List.kerase_of_notMem_keys absent)

theorem Keychain.remove_does (self : Keychain) (key : String) (device : Device) :
    Does (self.remove key) device device.refusal.isNone
      (device.items.erase (self.query key)) := by
  have left := List.tail_suffix device.refusals
  cases refuses : device.refusal with
  | some refusal =>
    have refused : Answers (secItemDelete (self.query key)) device _ _ := call_refused refuses _ _
    obtain ⟨failed,missing⟩ := refusal_status_ne refusal
    have thrown : (self.remove key).run device =
        .error refusal.status ⟨device.items,device.later.refusals⟩ := by
      simp only [remove,EStateM.run_bind,refused.run,failed,missing,ne_eq,not_false_eq_true,
        and_self,if_true]
      rfl
    exact .error left thrown
  | none =>
    have served : Answers (secItemDelete (self.query key)) device _ _ := call_served refuses _ _
    refine .ok left ?_
    by_cases present : self.query key ∈ device.items
    · simp only [if_pos present] at served
      rw [remove,EStateM.run_bind,served.run]
      rfl
    · simp only [if_neg present] at served
      rw [remove,EStateM.run_bind,served.run,erase_absent present]
      rfl

end SocialService.KeychainAccess
