import SocialService.Library.EventMachine
import SocialService.Services

/-! The keychain over a sequence of saved users. The entries under the users' names and the three
fixed entries share one key space, and the fixed ones are written last. -/
namespace SocialService

def Identity.fixed (identity : Identity) (key : String) : Option String :=
  if key = "email" then some identity.email
  else if key = "password" then some identity.password
  else if key = "name" then some identity.name
  else none

/-- Whether a key is fixed does not depend on the call. -/
theorem Identity.fixed_eq_none_iff (identity : Identity) (key : String) :
    identity.fixed key = none ↔ key ≠ "email" ∧ key ≠ "password" ∧ key ≠ "name" := by
  unfold fixed
  by_cases email : key = "email"
  · simp [email]
  · by_cases password : key = "password"
    · simp [password]
    · simp [email,password]

namespace Keychain

theorem saveUser_apply (keychain : Keychain) (call : Identity) (key : String) :
    keychain.saveUser call.name call.password call.email key =
      (call.fixed key).or (if key = call.name then some call.password else keychain key) := by
  unfold saveUser Identity.fixed set
  by_cases email : key = "email"
  · simp [email]
  · by_cases password : key = "password"
    · simp [password]
    · by_cases name : key = "name"
      · simp [name]
      · simp [email,password,name,Function.update_apply]

def saves (keychain : Keychain) (calls : List Identity) : Keychain :=
  EventMachine.run
    (fun keychain call => keychain.saveUser call.name call.password call.email) keychain calls

def lastSaved (calls : List Identity) (name : String) : Option Identity :=
  (calls.filter fun call => call.name = name).getLast?

theorem lastSaved_concat (calls : List Identity) (call : Identity) (name : String) :
    lastSaved (calls ++ [call]) name =
      if name = call.name then some call else lastSaved calls name := by
  unfold lastSaved
  by_cases same : call.name = name
  · simp [same]
  · simp [same,Ne.symm same]

/-- What an entry should hold after these calls: the last call decides a fixed key, the last call
made with that name any other. -/
def entry (calls : List Identity) (key : String) : Option String :=
  (calls.getLast?.bind fun last => last.fixed key).or
    ((lastSaved calls key).map Identity.password)

theorem saves_apply (calls : List Identity) (key : String) :
    saves (fun _ => none) calls key = entry calls key := by
  have keeps (history : List Identity) (keychain : Keychain) (call : Identity)
      (held : ∀ key, keychain key = entry history key) (key : String) :
      keychain.saveUser call.name call.password call.email key =
        entry (history ++ [call]) key := by
    rw [saveUser_apply,held,entry,entry,List.getLast?_concat,Option.bind_some,lastSaved_concat]
    cases written : call.fixed key with
    | some value => rfl
    | none =>
      have free (earlier : Identity) : earlier.fixed key = none :=
        (earlier.fixed_eq_none_iff key).mpr ((call.fixed_eq_none_iff key).mp written)
      by_cases same : key = call.name
      · simp [same]
      · simp [same,free]
  have held := EventMachine.run_history keeps calls (s := fun _ => none) (by simp [entry,lastSaved])
  exact held key

/-- The fixed entries are those of the last call, and each name has the password that was saved
with it last. -/
structure KeepsCredentials (calls : List Identity) : Prop where
  last : ∀ call, calls.getLast? = some call →
    saves (fun _ => none) calls "name" = some call.name ∧
      saves (fun _ => none) calls "password" = some call.password ∧
      saves (fun _ => none) calls "email" = some call.email
  own : ∀ name call, lastSaved calls name = some call →
    saves (fun _ => none) calls name = some call.password

theorem saves_last (calls : List Identity) (call : Identity) (last : calls.getLast? = some call)
    (key value : String) (fixed : call.fixed key = some value) :
    saves (fun _ => none) calls key = some value := by
  rw [saves_apply,entry,last,Option.bind_some,fixed]
  rfl

/-- Credentials are kept if and only if each fixed key that was also some user's name was saved
with the password that the last call writes under it anyway. -/
theorem keeps_credentials_iff (calls : List Identity) :
    KeepsCredentials calls ↔ ∀ last, calls.getLast? = some last → ∀ key value,
      last.fixed key = some value → ∀ call, lastSaved calls key = some call →
        call.password = value := by
  constructor
  · intro keeps last isLast key value fixed call saved
    have own := keeps.own key call saved
    rw [saves_last calls last isLast key value fixed] at own
    exact (Option.some.inj own).symm
  · intro agree
    constructor
    · intro call isLast
      have fixed := saves_last calls call isLast
      exact ⟨fixed _ _ rfl,fixed _ _ rfl,fixed _ _ rfl⟩
    · intro name call saved
      rw [saves_apply,entry,saved]
      cases written : calls.getLast?.bind fun last => last.fixed name with
      | none => rfl
      | some value =>
        obtain ⟨last,isLast,fixed⟩ := Option.bind_eq_some_iff.mp written
        rw [agree last isLast name value fixed call saved]
        rfl

/-- A user named `email` is left with the e-mail address in the place of the password. -/
theorem user_named_email_lost : ¬KeepsCredentials [⟨"email","secret","ana@abv.bg"⟩] := by
  intro keeps
  have own := keeps.own "email" ⟨"email","secret","ana@abv.bg"⟩ rfl
  rw [saves_apply] at own
  exact absurd own (by decide)

end Keychain

end SocialService
