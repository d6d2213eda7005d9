import PortaPhone.Contacts.Account
import PortaPhone.Lib.Text
/-!
# Signing in with the password of an extension (`freepbx.py`)

| here | there |
| --- | --- |
| `Reply.result`   | `((reply or {}).get("data") or {}).get(method) or {}` (`:99`, `:108`) |
| `Api.getExtension` | `FreePBXAPI.get_extension` (`:86`) |
| `authenticate`   | `FreePBXAdapter.authenticate` (`:203`) |
| `compareDigest`  | `hmac.compare_digest` of two texts, which raises a `TypeError` where one is not ASCII |

GraphQL answers a field with its type or with null, and an object may leave fields out (`Attr`). `str.isdigit` goes by
Unicode tables and is left open. `authenticate_iff`: sign-in ends as it should, unless it comes to compare a password
that is not ASCII.
-/

namespace PortaPhone.Freepbx

open Contacts (Attr)
open Text

/-! ## The GraphQL API -/

/-- An object with `data`, which has the result of one method. -/
structure Reply (α : Type) where
  data : Attr (Attr α) := .absent

/-- The result; any null on the way to it, and a reply that is null, counts as an object without fields. -/
def Reply.result {α : Type} (reply : Option (Reply α)) : Option α :=
  (reply.bind fun r => r.data.get?).bind fun data => data.get?

structure ExtensionUser where
  extPassword : Attr Text := .absent
deriving DecidableEq

structure Extension where
  extensionId : Attr Text := .absent
  user : Attr ExtensionUser := .absent
deriving DecidableEq

structure VoiceMail where
  name : Attr Text := .absent
  password : Attr Text := .absent
  email : Attr Text := .absent
deriving DecidableEq

/-- What the PBX answers to the two queries for an extension. -/
structure Api where
  fetchExtension : Text → Option (Reply Extension)
  fetchVoiceMail : Text → Option (Reply VoiceMail)
  isDigit : CodePoint → Bool

/-- `str.isdigit`. -/
def Api.isdigit (api : Api) (t : Text) : Bool := t ≠ [] && t.all api.isDigit

/-- `d.get(key)`, an empty text counting as missing. -/
def text? (a : Attr Text) : Option Text := a.get?.filter (· ≠ [])

/-- The extension with its `vm`. -/
structure UserData where
  extension : Extension
  vm : Option VoiceMail

def Api.getExtension (api : Api) (userId : Text) : Option UserData :=
  if api.isdigit userId then
    match Reply.result (api.fetchExtension userId) with
    | none => none
    | some extension =>
      if text? extension.extensionId = none then none
      else some { extension, vm := Reply.result (api.fetchVoiceMail userId) }
  else none

/-! ## Sign-in -/

/-- A `WebTritErrorException`, or the `TypeError` of a comparison. -/
inductive Failure
  | webTrit (statusCode : Nat) (message : Text) (code : Text)
  | typeError
deriving DecidableEq

def userAuthenticationError : Failure :=
  .webTrit 401 (ofString "User authentication error") (ofString "incorrect_credentials")

def invalidPasswordError : Failure := .webTrit 401 (ofString "Invalid password") (ofString "incorrect_credentials")

def compareDigest (a b : Text) : Except Failure Bool :=
  if a.isAscii && b.isAscii then .ok (a = b) else .error .typeError

/-- What a session is created for. -/
structure Session where
  userId : Option Text
deriving DecidableEq

def extractUserId (userData : UserData) : Option Text := userData.extension.extensionId.get?

/-- `not password or not sip_password or not hmac.compare_digest(sip_password, password)`. -/
def wrongPassword (sipPassword : Option Text) (password : Text) : Except Failure Bool :=
  match sipPassword.filter (· ≠ []) with
  | none => .ok true
  | some secret => if password = [] then .ok true else (compareDigest secret password).map (!·)

def sipPassword (userData : UserData) : Option Text :=
  userData.extension.user.get?.bind fun user => user.extPassword.get?

def authenticate (api : Api) (login password : Text) : Except Failure Session :=
  match api.getExtension login with
  | none => .error userAuthenticationError
  | some userData => do
    if ← wrongPassword (sipPassword userData) password then .error invalidPasswordError
    else return { userId := extractUserId userData }

/-! ## Who may sign in -/

/-- The PBX is asked for the extension and answers with it and with its password, neither of them empty. -/
structure HasPassword (api : Api) (login secret : Text) : Prop where
  asked : api.isdigit login = true
  answered : ∃ data extension extensionId user, api.fetchExtension login = some ⟨.val data⟩ ∧ data = .val extension ∧
    extension.extensionId = .val extensionId ∧ extensionId ≠ [] ∧ extension.user = .val user ∧
      user.extPassword = .val secret
  notEmpty : secret ≠ []

/-- The extension that the PBX answers with has this name. -/
def Named (api : Api) (login extensionId : Text) : Prop :=
  ∃ data extension, api.fetchExtension login = some ⟨.val data⟩ ∧ data = .val extension ∧
    extension.extensionId = .val extensionId

/-- A session of the extension exactly for its password, and a 401 for everything else. -/
structure SignsIn (api : Api) (login password : Text) : Prop where
  granted : HasPassword api login password →
    ∃ extensionId, Named api login extensionId ∧ authenticate api login password = .ok ⟨some extensionId⟩
  refused : ¬ HasPassword api login password →
    ∃ message, authenticate api login password = .error (.webTrit 401 message (ofString "incorrect_credentials"))

/-- There is a password to compare with the one that is given, and one of them is not ASCII. -/
def ComparesNonAscii (api : Api) (login password : Text) : Prop :=
  password ≠ [] ∧ ∃ secret, HasPassword api login secret ∧ (secret.isAscii && password.isAscii) = false

variable {api : Api} {login password secret : Text}

theorem get?_eq_some {α : Type} {a : Attr α} {v : α} : a.get? = some v ↔ a = .val v := by
  cases a <;> simp [Attr.get?]

theorem result_eq_some {α : Type} {reply : Option (Reply α)} {v : α} :
    Reply.result reply = some v ↔ ∃ data, reply = some ⟨.val data⟩ ∧ data = .val v := by
  constructor
  · intro h
    obtain ⟨data, hdata, hv⟩ := Option.bind_eq_some_iff.1 h
    obtain ⟨r, rfl, hr⟩ := Option.bind_eq_some_iff.1 hdata
    exact ⟨data, by rw [← get?_eq_some.1 hr], get?_eq_some.1 hv⟩
  · rintro ⟨data, rfl, rfl⟩
    rfl

theorem text?_eq_some {a : Attr Text} {t : Text} : text? a = some t ↔ a = .val t ∧ t ≠ [] := by
  simp [text?, Option.filter_eq_some_iff, get?_eq_some]

/-- What is found is an extension with a name, that the PBX has been asked for. -/
theorem getExtension_eq_some {userData : UserData} : api.getExtension login = some userData ↔
    api.isdigit login = true ∧ Reply.result (api.fetchExtension login) = some userData.extension ∧
      (text? userData.extension.extensionId).isSome = true ∧
        userData.vm = Reply.result (api.fetchVoiceMail login) := by
  unfold Api.getExtension
  by_cases hdigit : api.isdigit login = true
  · rw [if_pos hdigit]
    cases hresult : Reply.result (api.fetchExtension login) with
    | none => simp
    | some extension =>
      obtain ⟨extension', vm⟩ := userData
      by_cases hid : text? extension.extensionId = none
      · simp only [hid, if_true, Option.some.injEq]
        constructor
        · intro h
          cases h
        · rintro ⟨-, rfl, hsome, -⟩
          rw [hid] at hsome
          cases hsome
      · simp only [hid, if_false, Option.some.injEq, UserData.mk.injEq, hdigit, true_and]
        constructor
        · rintro ⟨rfl, rfl⟩
          exact ⟨rfl, Option.isSome_iff_ne_none.2 hid, rfl⟩
        · rintro ⟨rfl, -, rfl⟩
          exact ⟨rfl, rfl⟩
  · simp [hdigit]

theorem sipPassword_eq_some {userData : UserData} : sipPassword userData = some secret ↔
    ∃ user, userData.extension.user = .val user ∧ user.extPassword = .val secret := by
  simp [sipPassword, Option.bind_eq_some_iff, get?_eq_some]

/-- The password that is compared. -/
theorem hasPassword_iff : HasPassword api login secret ↔
    ∃ userData, api.getExtension login = some userData ∧ (sipPassword userData).filter (· ≠ []) = some secret := by
  simp only [getExtension_eq_some, Option.filter_eq_some_iff, sipPassword_eq_some, result_eq_some]
  constructor
  · rintro ⟨hasked, ⟨data, extension, extensionId, user, hreply, hdata, hid, hne, huser, hsecret⟩, hnotEmpty⟩
    refine ⟨⟨extension, _⟩, ⟨hasked, ⟨data, hreply, hdata⟩, ?_, rfl⟩, ⟨user, huser, hsecret⟩, by simpa using hnotEmpty⟩
    rw [text?_eq_some.2 ⟨hid, hne⟩]
    rfl
  · rintro ⟨userData, ⟨hasked, ⟨data, hreply, hdata⟩, hid, -⟩, ⟨user, huser, hsecret⟩, hnotEmpty⟩
    obtain ⟨extensionId, hid⟩ := Option.isSome_iff_exists.1 hid
    obtain ⟨hid, hne⟩ := text?_eq_some.1 hid
    exact ⟨hasked, ⟨data, _, extensionId, user, hreply, hdata, hid, hne, huser, hsecret⟩, by simpa using hnotEmpty⟩

theorem hasPassword_unique {other : Text} (h : HasPassword api login secret) (h' : HasPassword api login other) :
    secret = other := by
  obtain ⟨userData, hget, hsecret⟩ := hasPassword_iff.1 h
  obtain ⟨userData', hget', hother⟩ := hasPassword_iff.1 h'
  obtain rfl := Option.some.inj (hget.symm.trans hget')
  exact Option.some.inj (hsecret.symm.trans hother)

/-- Without a password on either side there is nothing to compare. -/
theorem authenticate_uncompared (h : password = [] ∨ ∀ secret, ¬ HasPassword api login secret) :
    ∃ message, authenticate api login password = .error (.webTrit 401 message (ofString "incorrect_credentials")) := by
  unfold authenticate
  cases hget : api.getExtension login with
  | none => exact ⟨_, rfl⟩
  | some userData =>
    have hwrong : wrongPassword (sipPassword userData) password = .ok true := by
      unfold wrongPassword
      cases hsecret : (sipPassword userData).filter (· ≠ []) with
      | none => rfl
      | some secret =>
        rcases h with rfl | h
        · rfl
        · exact absurd (hasPassword_iff.2 ⟨userData, hget, hsecret⟩) (h secret)
    simp only [hwrong]
    exact ⟨_, rfl⟩

/-- Otherwise the two are compared. -/
theorem authenticate_compared (h : HasPassword api login secret) (hpassword : password ≠ []) :
    ∃ extensionId, Named api login extensionId ∧ authenticate api login password =
      (compareDigest secret password).bind fun same =>
        if same then .ok ⟨some extensionId⟩ else .error invalidPasswordError := by
  obtain ⟨userData, hget, hsecret⟩ := hasPassword_iff.1 h
  obtain ⟨-, hreply, hid, -⟩ := getExtension_eq_some.1 hget
  obtain ⟨data, hreply, hdata⟩ := result_eq_some.1 hreply
  obtain ⟨extensionId, hid⟩ := Option.isSome_iff_exists.1 hid
  have hextract : extractUserId userData = some extensionId := get?_eq_some.2 (text?_eq_some.1 hid).1
  refine ⟨extensionId, ⟨data, userData.extension, hreply, hdata, (text?_eq_some.1 hid).1⟩, ?_⟩
  simp only [authenticate, hget, wrongPassword, hsecret, if_neg hpassword, hextract]
  cases compareDigest secret password with
  | error failure => rfl
  | ok same => cases same <;> rfl

/-- **Exactly when sign-in ends as it should.** -/
theorem authenticate_iff (api : Api) (login password : Text) :
    SignsIn api login password ↔ ¬ ComparesNonAscii api login password := by
  by_cases hcompared : password ≠ [] ∧ ∃ secret, HasPassword api login secret
  · obtain ⟨hpassword, secret, hsecret⟩ := hcompared
    obtain ⟨extensionId, hnamed, hrun⟩ := authenticate_compared hsecret hpassword
    have hnon : ComparesNonAscii api login password ↔ (secret.isAscii && password.isAscii) = false := by
      constructor
      · rintro ⟨-, other, hother, hascii⟩
        rwa [hasPassword_unique hsecret hother]
      · exact fun hascii => ⟨hpassword, secret, hsecret, hascii⟩
    have hgranted : HasPassword api login password ↔ secret = password :=
      ⟨hasPassword_unique hsecret, fun heq => heq ▸ hsecret⟩
    rw [hnon, Bool.not_eq_false]
    by_cases hascii : (secret.isAscii && password.isAscii) = true
    · refine iff_of_true ⟨fun h => ?_, fun h => ?_⟩ hascii
      · refine ⟨extensionId, hnamed, hrun.trans ?_⟩
        rw [compareDigest, if_pos hascii, hgranted.1 h, decide_eq_true rfl]
        rfl
      · rw [hgranted] at h
        refine ⟨ofString "Invalid password", hrun.trans ?_⟩
        rw [compareDigest, if_pos hascii, decide_eq_false h]
        rfl
    · have hraised : authenticate api login password = .error .typeError := by
        rw [hrun, compareDigest, if_neg hascii]
        rfl
      refine iff_of_false (fun h => ?_) hascii
      by_cases heq : HasPassword api login password
      · obtain ⟨extensionId, -, hok⟩ := h.granted heq
        rw [hraised] at hok
        cases hok
      · obtain ⟨message, herror⟩ := h.refused heq
        rw [hraised] at herror
        cases herror
  · have hnone : password = [] ∨ ∀ secret, ¬ HasPassword api login secret := by
      by_cases hpassword : password = []
      · exact .inl hpassword
      · exact .inr fun secret hsecret => hcompared ⟨hpassword, secret, hsecret⟩
    refine iff_of_true ⟨fun h => ?_, fun _ => authenticate_uncompared hnone⟩ ?_
    · exact absurd ⟨h.notEmpty, password, h⟩ hcompared
    · rintro ⟨hpassword, secret, hsecret, -⟩
      exact hcompared ⟨hpassword, secret, hsecret⟩

/-! ## A password that is not ASCII -/

def onlyExtension : Api where
  fetchExtension := fun _ => some ⟨.val (.val
    { extensionId := .val (ofString "1001"), user := .val { extPassword := .val (ofString "sip-secret") } })⟩
  fetchVoiceMail := fun _ => some ⟨.val .null⟩
  isDigit := fun p => decide (48 ≤ p.val ∧ p.val ≤ 57)

example : authenticate onlyExtension (ofString "1001") (ofString "sip-secret") = .ok ⟨some (ofString "1001")⟩ := by
  decide

/-- Neither a session nor a 401. -/
theorem nonAscii_password_raises : ¬ ∀ (api : Api) (login password : Text), SignsIn api login password := by
  intro h
  have hraised : authenticate onlyExtension (ofString "1001") (ofString "пароль") = .error .typeError := by decide
  obtain ⟨message, herror⟩ := (h onlyExtension (ofString "1001") (ofString "пароль")).refused fun hsame => by
    have hsecret : HasPassword onlyExtension (ofString "1001") (ofString "sip-secret") :=
      ⟨by decide, ⟨_, _, _, _, rfl, rfl, rfl, by decide, rfl, rfl⟩, by decide⟩
    exact absurd (hasPassword_unique hsame hsecret) (by decide)
  rw [hraised] at herror
  cases herror

end PortaPhone.Freepbx
