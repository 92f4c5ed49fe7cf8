import SocialService.AppEvents

/-! What the completion handlers make of any answer of Facebook, Firestore and the geocoder. The
error that comes with an answer is read by the geocoding handler only. -/
namespace SocialService

inductive ServiceAnswer where
  | loginGraph (attempt : Attempt) (result : Option AnyValue) (err : Option NSError)
  | signInGraph (attempt : Attempt) (result : Option AnyValue) (err : Option NSError)
  | document (snapshot : Option DocumentSnapshot) (error : Option NSError)
  | place (answer : GeocodeAnswer)

namespace ServiceAnswer

/-- Every field that the handler needs is there. -/
def Complete : ServiceAnswer → Prop
  | .loginGraph _ result _ | .signInGraph _ result _ => (LoginController.graphUser result).isSome
  | .document snapshot _ =>
    ((snapshot.bind DocumentSnapshot.data).bind fun data => (JSON.rawDictionary data).user).isSome
  | .place answer => answer.text.isSome

/-- Keychain, Firestore data and screen are as they were. -/
structure Untouched (before after : App) : Prop where
  keychain : after.world.keychain = before.world.keychain
  users : after.world.users = before.world.users
  forms : after.world.forms = before.world.forms
  navigation : after.navigation = before.navigation
  presented : after.presented = before.presented
  loginHud : after.loginHud = before.loginHud
  signInHuds : after.signInHuds = before.signInHuds

/-- The handler finishes, and without a needed field it leaves everything as it was. -/
def Withstands (handler : EStateM Trap σ Unit) (s : σ) (complete : Prop) (same : σ → σ → Prop) :
    Prop := ∃ next, handler.run s = .ok () next ∧ (¬complete → same s next)

def Handled (answer : ServiceAnswer) (app : App) (map : LocationViewController) : Prop :=
  match answer with
  | .loginGraph attempt result _ =>
    Withstands (LoginController.graphAnswered attempt result) app answer.Complete Untouched
  | .signInGraph attempt result _ =>
    Withstands (SignInController.graphAnswered attempt result) app answer.Complete Untouched
  | .document snapshot _ =>
    Withstands (SignInController.gotDocument snapshot) app answer.Complete Untouched
  | .place answer =>
    Withstands (LocationViewController.reverseGeocoded answer) map answer.text.isSome Eq

def Harmless : ServiceAnswer → Prop
  | .loginGraph _ result _ => ∃ entries name id email, result = some (.dictionary entries) ∧
      entries.lookup "name" = some (.string name) ∧ entries.lookup "id" = some (.string id) ∧
      entries.lookup "email" = some (.string email)
  | .signInGraph .. | .document .. => False
  | .place answer => answer.error.isSome ∨ answer.placemarks = none ∨
      ∃ place rest, answer.placemarks = some (place :: rest) ∧
        (place.subThoroughfare = none ∨ place.thoroughfare.isSome ∧ place.country.isSome)

theorem not_withstands_of_trap {handler : EStateM Trap σ Unit} {s after : σ} {complete : Prop}
    {same : σ → σ → Prop} {trap : Trap} (trapped : handler.run s = .error trap after) :
    ¬Withstands handler s complete same := by
  rintro ⟨next,finished,_⟩
  rw [trapped] at finished
  contradiction

end ServiceAnswer

theorem JSON.key_string_eq_some_iff (json : JSON) (key value : String) :
    (json.key key).string = some value ↔
      ∃ entries, json = .rawDictionary entries ∧ entries.lookup key = some (.string value) := by
  cases json with
  | rawDictionary entries =>
    cases found : entries.lookup key with
    | none => simp [JSON.key,found,JSON.string]
    | some item => cases item <;> simp [JSON.key,found,JSON.string,JSON.init]
  | _ => simp [JSON.key,JSON.string]

/-- Only a dictionary has a user, and only with three strings. -/
theorem JSON.user_isSome_iff (json : JSON) : json.user.isSome ↔
    ∃ entries name id email, json = .rawDictionary entries ∧
      entries.lookup "name" = some (.string name) ∧ entries.lookup "id" = some (.string id) ∧
      entries.lookup "email" = some (.string email) := by
  have read := json.key_string_eq_some_iff
  unfold JSON.user
  constructor
  · intro found
    split at found
    · rename_i name id email name_read id_read email_read
      obtain ⟨entries,rfl,has_name⟩ := (read ..).mp name_read
      obtain ⟨_,⟨⟩,has_id⟩ := (read ..).mp id_read
      obtain ⟨_,⟨⟩,has_email⟩ := (read ..).mp email_read
      exact ⟨entries,name,id,email,rfl,has_name,has_id,has_email⟩
    · contradiction
  · rintro ⟨entries,name,id,email,rfl,has_name,has_id,has_email⟩
    rw [(read ..).mpr ⟨entries,rfl,has_name⟩,(read ..).mpr ⟨entries,rfl,has_id⟩,
      (read ..).mpr ⟨entries,rfl,has_email⟩]
    rfl

namespace ServiceAnswer

theorem graphUser_isSome_iff (attempt : Attempt) (result : Option AnyValue)
    (err : Option NSError) : (LoginController.graphUser result).isSome ↔
      (ServiceAnswer.loginGraph attempt result err).Harmless := by
  have dictionary (value : AnyValue) (entries : List (String × AnyValue)) :
      JSON.init value = .rawDictionary entries ↔ value = .dictionary entries := by
    cases value <;> simp [JSON.init]
  cases result with
  | none => simp [LoginController.graphUser,Harmless]
  | some value =>
    simp only [LoginController.graphUser,Option.bind_some,JSON.user_isSome_iff,Harmless,dictionary,
      Option.some.injEq]

theorem loginGraph_withstands_iff (attempt : Attempt) (result : Option AnyValue)
    (err : Option NSError) (app : App) :
    Withstands (LoginController.graphAnswered attempt result) app
      (LoginController.graphUser result).isSome Untouched ↔
      (ServiceAnswer.loginGraph attempt result err).Harmless := by
  rw [← graphUser_isSome_iff]
  rcases LoginController.graphAnswered_cases attempt result app with
    ⟨identity,usable,finished⟩ | ⟨unusable,trap,trapped⟩
  · have complete : (LoginController.graphUser result).isSome := by rw [usable]; rfl
    exact iff_of_true ⟨_,finished,fun incomplete => absurd complete incomplete⟩ complete
  · exact iff_of_false (not_withstands_of_trap trapped) (by rw [unusable]; exact Bool.false_ne_true)

theorem place_withstands_iff (answer : GeocodeAnswer) (map : LocationViewController) :
    Withstands (LocationViewController.reverseGeocoded answer) map answer.text.isSome Eq ↔
      (ServiceAnswer.place answer).Harmless := by
  obtain ⟨placemarks,_ | error⟩ := answer
  · rcases placemarks with _ | (_ | ⟨⟨_ | sub,_ | street,_ | country⟩,rest⟩)
    all_goals
      simp [Withstands,Harmless,LocationViewController.reverseGeocoded,GeocodeAnswer.text,unwrap]
  · simp [Withstands,Harmless,LocationViewController.reverseGeocoded,GeocodeAnswer.text]

/-- An answer is handled, in any state, if and only if it is one of the harmless ones. -/
theorem handled_iff_harmless (answer : ServiceAnswer) (app : App) (map : LocationViewController) :
    answer.Handled app map ↔ answer.Harmless := by
  cases answer with
  | loginGraph attempt result err => exact loginGraph_withstands_iff attempt result err app
  | signInGraph attempt result err =>
    obtain ⟨trap,trapped⟩ := SignInController.graphAnswered_traps attempt result app
    exact iff_of_false (not_withstands_of_trap trapped) id
  | document snapshot error =>
    obtain ⟨trap,trapped⟩ := SignInController.gotDocument_traps snapshot app
    exact iff_of_false (not_withstands_of_trap trapped) id
  | place answer => exact place_withstands_iff answer map

/-- No Graph result, a complete one at the sign-in, a stored profile, no placemark, and a street
number without a street. -/
theorem harmful_answers :
    let app := App.launch World.blank
    let ana : Document :=
      [("name",.string "Ana"),("id",.string "secret"),("email",.string "ana@abv.bg")]
    ¬(loginGraph ⟨0,.facebookLogin⟩ none none).Handled app {} ∧
    ¬(signInGraph ⟨0,.facebookSignIn 0⟩ (some (.dictionary ana)) none).Handled app {} ∧
    ¬(document (some ⟨"u0",some ana⟩) none).Handled app {} ∧
    ¬(place ⟨some [],none⟩).Handled app {} ∧
    ¬(place ⟨some [⟨some "1",none,some "Bulgaria"⟩],none⟩).Handled app {} := by
  intro app ana
  obtain ⟨_,sign_in⟩ := SignInController.graphAnswered_traps ⟨0,.facebookSignIn 0⟩
    (some (.dictionary ana)) app
  obtain ⟨_,read⟩ := SignInController.gotDocument_traps (some ⟨"u0",some ana⟩) app
  exact ⟨not_withstands_of_trap rfl,not_withstands_of_trap sign_in,not_withstands_of_trap read,
    not_withstands_of_trap rfl,not_withstands_of_trap rfl⟩

end ServiceAnswer

end SocialService
