import PortaPhone.Lib.KeyValue
import PortaPhone.Lib.Machine
import PortaPhone.SignIn.Aliases
/-!
# Signing in by a code, with many replicas (`portaswitch/adapter.py`, `portaswitch/otp_storage.py`)

| here | there |
| --- | --- |
| `Cipher`                 | `encrypt_secret` and `decrypt_secret` (`utils.py:24`, `:29`), a Fernet under the key of a secret |
| `Replica`, `Deployment`  | adapters with their settings; those of one `STORAGE_COLLECTION` have one storage, in memory each has its own |
| `storedToken`, `sessionAsked` | the token in a record (`adapter.py:691`), the session that `verify_otp` is sent under (`api/admin.py:337`) |
| `react`                  | `generate_otp` (`adapter.py:642`) from `create_otp` on and `validate_otp` (`:759`), cut at their awaits |
| `Effect.apply`           | `store`, `delete` (`otp_storage.py`); `retrieve` reads the record |
| `State`, `step`          | any number of these calls on any number of replicas |

The storage runs in a thread of its own (`asyncio.to_thread`): a call that is cancelled there leaves its `store` or its
`delete` behind, to be carried out later or never. A record may be dropped at any time, by its TTL or with the memory.

`signed_in_by_code`: a call that signs in does so as the account of the record that it was given the id of, and the
switch confirmed the code under the session that the record holds. `used_once`: a code that signed a user in is of no
use to a call that has not read its record yet. `works_on_replicas`: where the record can be read, it can be used.
-/

namespace PortaPhone.SignIn.OtpReplicas

open Machine

/-! ## Replicas -/

/-- `nonce` stands for what Fernet adds of its own, the time and random bytes. A text is not read back from an empty
one. -/
structure Cipher where
  encryptSecret : (secret nonce plaintext : String) → String
  decryptSecret : (secret ciphertext : String) → Option String
  decrypt_encrypt : ∀ secret nonce plaintext,
    decryptSecret secret (encryptSecret secret nonce plaintext) = some plaintext
  encrypt_ne_empty : ∀ secret nonce plaintext, encryptSecret secret nonce plaintext ≠ ""

structure Replica where
  adminApiToken : String
  ignoreAccounts : List String := []
  /-- Which of the storages it uses. -/
  storage : Nat
deriving DecidableEq, Repr

structure Deployment where
  cipher : Cipher
  replica : Nat → Replica

def otpExpiredError : WebTritError := ⟨401, "OTP has expired", some "otp_expired", none⟩

def incorrectOtpCodeError (code : String) : WebTritError :=
  ⟨401, "Incorrect OTP code: " ++ code, some "incorrect_otp_code", none⟩

/-- A value that `if` takes for one. -/
def given (token : Option String) : Option String := token.filter (· ≠ "")

def storedToken (cipher : Cipher) (secret nonce : String) (session : Option String) : Option String :=
  (given session).map (cipher.encryptSecret secret nonce)

/-- The session in a record. -/
def pinnedSession (cipher : Cipher) (secret : String) (storedToken : Option String) : Option String :=
  given ((given storedToken).bind (cipher.decryptSecret secret))

/-- That of the record, and without one that of the replica. -/
def sessionAsked (cipher : Cipher) (secret : String) (storedToken own : Option String) : Option String :=
  (pinnedSession cipher secret storedToken).or own

/-! ## Calls -/

/-- A call of `validate_otp` that has read a record. -/
structure Attempt where
  otpId : String
  code : String
  row : StoredOtp
deriving DecidableEq, Repr

/-- Where a call is. A call that is not `awaited` has failed and left a thread behind. -/
inductive Place
  | creating (userRef : String) (iAccount : Int)
  | storing (row : StoredOtp) (awaited : Bool)
  | sent (otpId : String)
  | retrieving (otpId code : String)
  | verifying (a : Attempt) (session : Option String)
  | deleting (a : Attempt) (awaited : Bool)
  | loggingIn (a : Attempt)
  | signedIn (a : Attempt)
  | refused (error : WebTritError)
  | failed
deriving DecidableEq, Repr

/-- The attempt of a call that has read a record and was not refused. -/
def Place.attempt? : Place → Option Attempt
  | .verifying a _ | .deleting a _ | .loggingIn a | .signedIn a => some a
  | .creating _ _ | .storing _ _ | .sent _ | .retrieving _ _ | .refused _ | .failed => none

/-- That of a call whose code was taken for right. -/
def Place.passed? : Place → Option Attempt
  | .deleting a _ | .loggingIn a | .signedIn a => some a
  | .creating _ _ | .storing _ _ | .sent _ | .retrieving _ _ | .verifying _ _ | .refused _ | .failed => none

/-- That of a call that has deleted the record. -/
def Place.done? : Place → Option Attempt
  | .loggingIn a | .signedIn a => some a
  | .creating _ _ | .storing _ _ | .sent _ | .retrieving _ _ | .verifying _ _ | .deleting _ _
  | .refused _ | .failed => none

structure Call where
  replica : Nat
  place : Place
deriving DecidableEq, Repr

/-- A code that the switch accepted to send, with the session that the replica held at its answer. -/
structure Creation where
  call : Nat
  replica : Nat
  session : Option String
  nonce : String
  row : StoredOtp
deriving DecidableEq, Repr

/-- A code that the switch confirmed. -/
structure Confirmation where
  call : Nat
  code : String
  session : String
deriving DecidableEq, Repr

/-- The last four fields are the history. No step reads the last three, and of `created` a step reads the ids alone. -/
structure State where
  admin : Nat → Option String := fun _ => none
  storages : Nat → KeyValue String StoredOtp := fun _ => KeyValue.empty
  calls : List Call := []
  created : List Creation := []
  kept : List (Nat × String) := []
  retired : List (Nat × String) := []
  confirmed : List Confirmation := []

/-- What a call waits for has come. -/
inductive Act
  /-- `create_otp` succeeded; the id and the nonce are drawn. -/
  | accepted (otpId nonce : String)
  | stored
  | retrieved
  /-- `verify_otp` is sent; under its own session a replica may do so again. -/
  | asked
  /-- The `success` of the answer, if it has one. -/
  | verified (success : Option Bool)
  | deleted
  /-- The account is found or not, and logged in. -/
  | loggedIn (found : Bool)
  /-- An exception, or the call is cancelled. -/
  | failed
deriving DecidableEq, Repr

inductive Event
  | generate (r : Nat) (userRef : String) (iAccount : Int)
  | validate (r : Nat) (otpId code : String)
  | call (i : Nat) (act : Act)
  /-- The admin connector of a replica logs in, or loses its session. -/
  | session (r : Nat) (token : Option String)
  | dropped (storage : Nat) (otpId : String)
deriving DecidableEq, Repr

/-- What an act does beside its call. -/
inductive Effect
  | nothing
  | create (c : Creation)
  | keep (row : StoredOtp)
  | confirm (c : Confirmation)
  | retire (otpId : String)
deriving DecidableEq, Repr

variable (d : Deployment)

def Effect.apply (storage : Nat) (s : State) : Effect → State
  | .nothing => s
  | .create c => { s with created := s.created ++ [c] }
  | .keep row =>
    { s with storages := Function.update s.storages storage ((s.storages storage).set row.otpId row)
             kept := s.kept ++ [(storage, row.otpId)] }
  | .confirm c => { s with confirmed := s.confirmed ++ [c] }
  | .retire otpId =>
    { s with storages := Function.update s.storages storage ((s.storages storage).erase otpId)
             retired := s.retired ++ [(storage, otpId)] }

/-- The record for a code, drawn after the switch accepted it. -/
def recordOf (r : Nat) (userRef : String) (iAccount : Int) (session : Option String) (otpId nonce : String) :
    StoredOtp :=
  ⟨otpId, iAccount, userRef, storedToken d.cipher (d.replica r).adminApiToken nonce session⟩

/-- A missing record, or one for no account. -/
def readRecord (otpId code : String) : Option StoredOtp → Place
  | none => .refused otpExpiredError
  | some row => if row.iAccount = 0 then .refused otpExpiredError else .verifying ⟨otpId, code, row⟩ none

/-- The code counts for an ignored account whatever the answer is. -/
def judge (ignoreAccounts : List String) (i : Nat) (a : Attempt) (session : String) (success : Option Bool) :
    Place × Effect :=
  let effect := if success = some true then .confirm ⟨i, a.code, session⟩ else .nothing
  if a.row.userRef ∈ ignoreAccounts then (.deleting a true, effect)
  else
    match success with
    | none => (.failed, effect)
    | some false => (.refused (incorrectOtpCodeError a.code), effect)
    | some true => (.deleting a true, effect)

/-- A call with its next place; `none` where it does not wait for such an act. -/
def react (s : State) (i : Nat) (call : Call) : Act → Option (Place × Effect)
  | .accepted otpId nonce => match call.place with
    | .creating userRef iAccount =>
      if otpId ∈ s.created.map (·.row.otpId) then none
      else
        let session := s.admin call.replica
        let row := recordOf d call.replica userRef iAccount session otpId nonce
        some (.storing row true, .create ⟨i, call.replica, session, nonce, row⟩)
    | _ => none
  | .stored => match call.place with
    | .storing row awaited => some (if awaited then .sent row.otpId else .failed, .keep row)
    | _ => none
  | .retrieved => match call.place with
    | .retrieving otpId code =>
      some (readRecord otpId code ((s.storages (d.replica call.replica).storage).get otpId), .nothing)
    | _ => none
  | .asked => match call.place with
    | .verifying a session =>
      if session.isSome ∧
        (pinnedSession d.cipher (d.replica call.replica).adminApiToken a.row.bssToken).isSome then none
      else
        (sessionAsked d.cipher (d.replica call.replica).adminApiToken a.row.bssToken
          (s.admin call.replica)).map fun session =>
          (.verifying a (some session), .nothing)
    | _ => none
  | .verified success => match call.place with
    | .verifying a (some session) => some (judge (d.replica call.replica).ignoreAccounts i a session success)
    | _ => none
  | .deleted => match call.place with
    | .deleting a awaited => some (if awaited then .loggingIn a else .failed, .retire a.otpId)
    | _ => none
  | .loggedIn found => match call.place with
    | .loggingIn a =>
      some (if found then .signedIn a else .refused (notFoundUserError (toString a.row.iAccount)), .nothing)
    | _ => none
  | .failed => match call.place with
    | .storing row _ => some (.storing row false, .nothing)
    | .deleting a _ => some (.deleting a false, .nothing)
    | .creating _ _ | .retrieving _ _ | .verifying _ _ | .loggingIn _ => some (.failed, .nothing)
    | .sent _ | .signedIn _ | .refused _ | .failed => none

def step (s : State) : Event → Option State
  | .generate r userRef iAccount => some { s with calls := s.calls ++ [⟨r, .creating userRef iAccount⟩] }
  | .validate r otpId code => some { s with calls := s.calls ++ [⟨r, .retrieving otpId code⟩] }
  | .call i act => match s.calls[i]? with
    | none => none
    | some call => (react d s i call act).map fun (place, effect) =>
      let s' := effect.apply (d.replica call.replica).storage s
      { s' with calls := s'.calls.set i { call with place := place } }
  | .session r token => some { s with admin := Function.update s.admin r token }
  | .dropped storage otpId =>
    some { s with storages := Function.update s.storages storage ((s.storages storage).erase otpId) }

/-! ## What a call can do -/

section Steps

variable {d} {s s' t : State} {i : Nat} {call : Call} {act : Act} {place : Place} {effect : Effect}

/-- The ways of a call from its place to the next one. -/
inductive Moves (d : Deployment) (s : State) (i : Nat) (call : Call) : Act → Place → Effect → Prop
  | accepted {userRef : String} {iAccount : Int} {otpId nonce : String} (hplace : call.place =
    .creating userRef iAccount)
      (hfresh : otpId ∉ s.created.map (·.row.otpId)) :
      Moves d s i call (.accepted otpId nonce)
        (.storing (recordOf d call.replica userRef iAccount (s.admin call.replica) otpId nonce) true)
        (.create ⟨i, call.replica, s.admin call.replica, nonce,
          recordOf d call.replica userRef iAccount (s.admin call.replica) otpId nonce⟩)
  | stored {row : StoredOtp} {awaited : Bool} (hplace : call.place = .storing row awaited) :
      Moves d s i call .stored (if awaited then .sent row.otpId else .failed) (.keep row)
  | found {otpId code : String} {row : StoredOtp} (hplace : call.place = .retrieving otpId code)
      (hrow : (s.storages (d.replica call.replica).storage).get otpId = some row) (haccount : row.iAccount ≠ 0) :
      Moves d s i call .retrieved (.verifying ⟨otpId, code, row⟩ none) .nothing
  | asked {a : Attempt} {session : Option String} {token : String} (hplace : call.place = .verifying a session)
      (htoken : sessionAsked d.cipher (d.replica call.replica).adminApiToken a.row.bssToken (s.admin call.replica) =
        some token) :
      Moves d s i call .asked (.verifying a (some token)) .nothing
  | confirmed {a : Attempt} {session : String} (hplace : call.place = .verifying a (some session)) :
      Moves d s i call (.verified (some true)) (.deleting a true) (.confirm ⟨i, a.code, session⟩)
  | ignored {a : Attempt} {session : String} {success : Option Bool} (hplace : call.place = .verifying a (some session))
      (hignored : a.row.userRef ∈ (d.replica call.replica).ignoreAccounts) :
      Moves d s i call (.verified success) (.deleting a true) .nothing
  | deleted {a : Attempt} {awaited : Bool} (hplace : call.place = .deleting a awaited) :
      Moves d s i call .deleted (if awaited then .loggingIn a else .failed) (.retire a.otpId)
  | signedIn {a : Attempt} (hplace : call.place = .loggingIn a) :
    Moves d s i call (.loggedIn true) (.signedIn a) .nothing
  | leftStoring {row : StoredOtp} {awaited : Bool} (hplace : call.place = .storing row awaited) :
      Moves d s i call .failed (.storing row false) .nothing
  | leftDeleting {a : Attempt} {awaited : Bool} (hplace : call.place = .deleting a awaited) :
      Moves d s i call .failed (.deleting a false) .nothing
  | refused (act : Act) (error : WebTritError) : Moves d s i call act (.refused error) .nothing
  | failed (act : Act) : Moves d s i call act .failed .nothing

theorem judge_moves {a : Attempt} {session : String} {success : Option Bool}
    (hplace : call.place = .verifying a (some session))
    (h : judge (d.replica call.replica).ignoreAccounts i a session success = (place, effect)) :
    Moves d s i call (.verified success) place effect := by
  by_cases hignored : a.row.userRef ∈ (d.replica call.replica).ignoreAccounts
  · rcases success with _ | _ | _ <;> simp only [judge, hignored, if_true] at h <;> cases h
    · exact .ignored hplace hignored
    · exact .ignored hplace hignored
    · exact .confirmed hplace
  · rcases success with _ | _ | _ <;> simp only [judge, hignored, if_false] at h <;> cases h
    · exact .failed _
    · exact .refused _ _
    · exact .confirmed hplace

theorem readRecord_moves {otpId code : String} (hplace : call.place = .retrieving otpId code)
    (h : readRecord otpId code ((s.storages (d.replica call.replica).storage).get otpId) = place) :
    Moves d s i call .retrieved place .nothing := by
  subst h
  cases hrow : (s.storages (d.replica call.replica).storage).get otpId with
  | none => exact .refused _ _
  | some row =>
    by_cases haccount : row.iAccount = 0
    · rw [readRecord, if_pos haccount]
      exact .refused _ _
    · rw [readRecord, if_neg haccount]
      exact .found hplace hrow haccount

theorem react_moves (h : react d s i call act = some (place, effect)) : Moves d s i call act place effect := by
  obtain ⟨r, at_⟩ := call
  cases act with
  | accepted otpId nonce =>
    cases at_ <;> simp only [react, reduceCtorEq] at h
    split at h
    · cases h
    · cases h
      exact .accepted rfl ‹_›
  | stored =>
    cases at_ <;> simp only [react, reduceCtorEq] at h
    cases h
    exact .stored rfl
  | retrieved =>
    cases at_ <;> simp only [react, reduceCtorEq, Option.some.injEq, Prod.mk.injEq] at h
    obtain ⟨hplace, rfl⟩ := h
    exact readRecord_moves rfl hplace
  | asked =>
    cases at_ <;> simp only [react, reduceCtorEq] at h
    split at h
    · cases h
    · obtain ⟨token, htoken, hto⟩ := Option.map_eq_some_iff.1 h
      cases hto
      exact .asked rfl htoken
  | verified success =>
    cases at_ <;> simp only [react, reduceCtorEq] at h
    split at h
    · rename_i hplace
      exact judge_moves hplace (Option.some.inj h)
    · cases h
  | deleted =>
    cases at_ <;> simp only [react, reduceCtorEq] at h
    cases h
    exact .deleted rfl
  | loggedIn found =>
    cases at_ <;> simp only [react, reduceCtorEq] at h
    cases found <;> cases h
    · exact .refused _ _
    · exact .signedIn rfl
  | failed =>
    cases at_ <;> simp only [react, reduceCtorEq] at h <;> cases h
    · exact .failed _
    · exact .leftStoring rfl
    · exact .failed _
    · exact .failed _
    · exact .leftDeleting rfl
    · exact .failed _

@[simp] theorem apply_calls (storage : Nat) (s : State) (effect : Effect) :
    (effect.apply storage s).calls = s.calls := by
  cases effect <;> rfl

theorem step_call (h : step d s (.call i act) = some s') :
    ∃ call place effect, s.calls[i]? = some call ∧ Moves d s i call act place effect ∧
      react d s i call act = some (place, effect) ∧
      s' = { effect.apply (d.replica call.replica).storage s with
        calls := s.calls.set i { call with place := place } } := by
  rw [step] at h
  split at h
  · cases h
  · rename_i call hi
    obtain ⟨⟨place, effect⟩, hreact, rfl⟩ := Option.map_eq_some_iff.1 h
    exact ⟨call, place, effect, hi, react_moves hreact, hreact, by simp⟩

end Steps

/-! ## The storages -/

section Storages

variable {storages : Nat → KeyValue String StoredOtp} {storage storage' : Nat} {otpId otpId' : String} {row : StoredOtp}

theorem get_update_set : (Function.update storages storage ((storages storage).set otpId row) storage').get otpId' =
    if storage' = storage ∧ otpId' = otpId then some row else (storages storage').get otpId' := by
  by_cases hs : storage' = storage
  · subst hs
    rw [Function.update_self, KeyValue.get_set]
    by_cases ho : otpId' = otpId <;> simp [ho]
  · rw [Function.update_of_ne hs, if_neg fun h => hs h.1]

theorem get_update_erase : (Function.update storages storage ((storages storage).erase otpId) storage').get otpId' =
    if storage' = storage ∧ otpId' = otpId then none else (storages storage').get otpId' := by
  by_cases hs : storage' = storage
  · subst hs
    rw [Function.update_self, KeyValue.get_erase]
    by_cases ho : otpId' = otpId <;> simp [ho]
  · rw [Function.update_of_ne hs, if_neg fun h => hs h.1]

end Storages

/-! ## The invariant -/

section Invariant

/-- The record at an id was made for a code that was accepted on a replica with this storage. -/
def Backed (s : State) (storage : Nat) (otpId : String) (row : StoredOtp) : Prop :=
  row.otpId = otpId ∧ (storage, otpId) ∈ s.kept ∧ ∃ c ∈ s.created, (d.replica c.replica).storage = storage ∧ c.row = row

/-- The session is that of the record, or one of the replica. -/
def AskedUnder (r : Nat) (row : StoredOtp) (session : String) : Prop :=
  ∃ own, sessionAsked d.cipher (d.replica r).adminApiToken row.bssToken own = some session

/-- The user is ignored or the switch confirmed the code to this call. -/
def CodeGood (s : State) (i r : Nat) (a : Attempt) : Prop :=
  a.row.userRef ∈ (d.replica r).ignoreAccounts ∨
    ∃ c ∈ s.confirmed, c.call = i ∧ c.code = a.code ∧ AskedUnder d r a.row c.session

structure CallOk (s : State) (i : Nat) (call : Call) : Prop where
  storing : ∀ row awaited, call.place = .storing row awaited →
    (∃ c ∈ s.created, c.call = i ∧ c.replica = call.replica ∧ c.row = row) ∧
      ((d.replica call.replica).storage, row.otpId) ∉ s.kept
  attempt : ∀ a, call.place.attempt? = some a → Backed d s (d.replica call.replica).storage a.otpId a.row
  asked : ∀ a session, call.place = .verifying a (some session) → AskedUnder d call.replica a.row session
  passed : ∀ a, call.place.passed? = some a → CodeGood d s i call.replica a
  done : ∀ a, call.place.done? = some a → ((d.replica call.replica).storage, a.otpId) ∈ s.retired

/-- Ids are not drawn twice, a record is where a call stored it, and it is gone where a call deleted it. -/
structure Records (s : State) : Prop where
  ids : (s.created.map (·.row.otpId)).Nodup
  token : ∀ c ∈ s.created, c.row.bssToken = storedToken d.cipher (d.replica c.replica).adminApiToken c.nonce c.session
  kept : ∀ storage otpId, (storage, otpId) ∈ s.kept → otpId ∈ s.created.map (·.row.otpId)
  stored : ∀ storage otpId row, (s.storages storage).get otpId = some row → Backed d s storage otpId row
  retired : ∀ storage otpId, (storage, otpId) ∈ s.retired → (storage, otpId) ∈ s.kept ∧
    (s.storages storage).get otpId = none

structure Inv (s : State) : Prop extends Records d s where
  calls : ∀ i call, s.calls[i]? = some call → CallOk d s i call

/-- The history only grows. -/
structure Grows (s s' : State) : Prop where
  created : s.created ⊆ s'.created
  kept : s.kept ⊆ s'.kept
  retired : s.retired ⊆ s'.retired
  confirmed : s.confirmed ⊆ s'.confirmed

variable {d} {s s' t : State} {i : Nat} {call : Call} {act : Act} {place : Place} {effect : Effect} {e : Event}
  {es : List Event}

theorem passed_attempt {a : Attempt} (h : place.passed? = some a) : place.attempt? = some a := by
  cases place <;> first | exact h | cases h

theorem done_passed {a : Attempt} (h : place.done? = some a) : place.passed? = some a := by
  cases place <;> first | exact h | cases h

theorem Grows.apply (storage : Nat) (s : State) (effect : Effect) : Grows s (effect.apply storage s) := by
  cases effect <;> constructor <;> simp [Effect.apply]

theorem grows_step (h : step d s e = some t) : Grows s t := by
  cases e with
  | generate r userRef iAccount => cases h; exact ⟨fun _ h => h, fun _ h => h, fun _ h => h, fun _ h => h⟩
  | validate r otpId code => cases h; exact ⟨fun _ h => h, fun _ h => h, fun _ h => h, fun _ h => h⟩
  | session r token => cases h; exact ⟨fun _ h => h, fun _ h => h, fun _ h => h, fun _ h => h⟩
  | dropped storage otpId => cases h; exact ⟨fun _ h => h, fun _ h => h, fun _ h => h, fun _ h => h⟩
  | call i act =>
    obtain ⟨call, place, effect, -, -, -, rfl⟩ := step_call h
    obtain ⟨h₁, h₂, h₃, h₄⟩ := Grows.apply (d.replica call.replica).storage s effect
    exact ⟨h₁, h₂, h₃, h₄⟩

theorem Backed.mono {storage : Nat} {otpId : String} {row : StoredOtp}
    (h : Backed d s storage otpId row) (hg : Grows s s') :
    Backed d s' storage otpId row := by
  obtain ⟨hid, hkept, c, hc, hrest⟩ := h
  exact ⟨hid, hg.kept hkept, c, hg.created hc, hrest⟩

theorem CodeGood.mono {r : Nat} {a : Attempt} (h : CodeGood d s i r a) (hg : Grows s s') : CodeGood d s' i r a := by
  rcases h with hignored | ⟨c, hc, hrest⟩
  · exact .inl hignored
  · exact .inr ⟨c, hg.confirmed hc, hrest⟩

theorem CallOk.mono (h : CallOk d s i call) (hg : Grows s s')
    (hkept : ∀ row awaited, call.place = .storing row awaited →
      ((d.replica call.replica).storage, row.otpId) ∉ s'.kept) :
    CallOk d s' i call where
  storing row awaited hplace := by
    obtain ⟨⟨c, hc, hrest⟩, -⟩ := h.storing row awaited hplace
    exact ⟨⟨c, hg.created hc, hrest⟩, hkept row awaited hplace⟩
  attempt a ha := (h.attempt a ha).mono hg
  asked := h.asked
  passed a ha := (h.passed a ha).mono hg
  done a ha := hg.retired (h.done a ha)

/-- A call that holds no record. -/
theorem callOk_idle {r : Nat} (hstoring : ∀ row awaited, place ≠ .storing row awaited)
    (hattempt : place.attempt? = none) :
    CallOk d s i ⟨r, place⟩ where
  storing row awaited hplace := absurd hplace (hstoring row awaited)
  attempt a ha := by
    rw [hattempt] at ha
    cases ha
  asked a session hplace := by
    obtain rfl : place = .verifying a (some session) := hplace
    cases hattempt
  passed a ha := by
    rw [passed_attempt ha] at hattempt
    cases hattempt
  done a ha := by
    rw [passed_attempt (done_passed ha)] at hattempt
    cases hattempt

theorem calls_set {calls : List Call} {j : Nat} {call' call'' : Call} (hi : calls[i]? = some call)
    (h : (calls.set i call')[j]? = some call'') : (j = i ∧ call'' = call') ∨ (j ≠ i ∧ calls[j]? = some call'') := by
  by_cases hji : j = i
  · subst hji
    rw [List.getElem?_set_self (List.getElem?_eq_some_iff.1 hi).1] at h
    exact .inl ⟨rfl, (Option.some.inj h).symm⟩
  · rw [List.getElem?_set_ne (Ne.symm hji)] at h
    exact .inr ⟨hji, h⟩

theorem calls_snoc {calls : List Call} {j : Nat} {call' call'' : Call} (h : (calls ++ [call'])[j]? = some call'') :
    calls[j]? = some call'' ∨ j = calls.length ∧ call'' = call' := by
  rcases Nat.lt_trichotomy j calls.length with hlt | heq | hgt
  · rw [List.getElem?_append_left hlt] at h
    exact .inl h
  · subst heq
    rw [List.getElem?_concat_length] at h
    exact .inr ⟨rfl, (Option.some.inj h).symm⟩
  · rw [List.getElem?_eq_none (by simp; omega)] at h
    cases h

/-- An id names one creation. -/
theorem Inv.creation_unique (h : Inv d s) {c c' : Creation} (hc : c ∈ s.created) (hc' : c' ∈ s.created)
    (hid : c.row.otpId = c'.row.otpId) : c = c' :=
  List.inj_on_of_nodup_map h.ids hc hc' hid

theorem CallOk.same (h : CallOk d s i call) (hg : Grows s s') (hkept : s'.kept = s.kept) : CallOk d s' i call :=
  h.mono hg fun row awaited hplace => hkept ▸ (h.storing row awaited hplace).2

/-- A call whose code was taken for right. -/
theorem callOk_passed {r : Nat} {a : Attempt} (hplace : place.passed? = some a)
    (hbacked : Backed d s (d.replica r).storage a.otpId a.row) (hgood : CodeGood d s i r a)
    (hdone : ∀ a, place.done? = some a → ((d.replica r).storage, a.otpId) ∈ s.retired) : CallOk d s i ⟨r, place⟩ where
  storing row awaited hrow := by
    obtain rfl : place = .storing row awaited := hrow
    cases hplace
  attempt a' ha := by
    obtain rfl : a' = a := Option.some.inj (ha.symm.trans (passed_attempt hplace))
    exact hbacked
  asked a' session hask := by
    obtain rfl : place = .verifying a' (some session) := hask
    cases hplace
  passed a' ha := by
    obtain rfl : a' = a := Option.some.inj (ha.symm.trans hplace)
    exact hgood
  done := hdone

/-- A call that has read its record and whose code is not judged yet. -/
theorem callOk_verifying {r : Nat} {a : Attempt} {session : Option String}
    (hbacked : Backed d s (d.replica r).storage a.otpId a.row)
    (hasked : ∀ token, session = some token → AskedUnder d r a.row token) :
    CallOk d s i ⟨r, .verifying a session⟩ where
  storing row awaited hrow := by cases hrow
  attempt a' ha := by
    cases ha
    exact hbacked
  asked a' token hask := by
    cases hask
    exact hasked token rfl
  passed a' ha := by cases ha
  done a' ha := by cases ha

/-- A call that stores its record. -/
theorem callOk_storing {r : Nat} {row : StoredOtp} {awaited : Bool}
    (hcreated : ∃ c ∈ s.created, c.call = i ∧ c.replica = r ∧ c.row = row)
    (hkept : ((d.replica r).storage, row.otpId) ∉ s.kept) : CallOk d s i ⟨r, .storing row awaited⟩ where
  storing row' awaited' hrow := by
    cases hrow
    exact ⟨hcreated, hkept⟩
  attempt a ha := by cases ha
  asked a session hask := by cases hask
  passed a ha := by cases ha
  done a ha := by cases ha

/-- The call that moves. -/
theorem callOk_moves (h : Inv d s) (hi : s.calls[i]? = some call) (hmove : Moves d s i call act place effect) :
    CallOk d (effect.apply (d.replica call.replica).storage s) i { call with place := place } := by
  have hcall := h.calls i call hi
  have hg := Grows.apply (d.replica call.replica).storage s effect
  cases hmove with
  | accepted hplace hfresh =>
    exact callOk_storing ⟨_, List.mem_append_right _ (List.mem_singleton_self _), rfl, rfl, rfl⟩
      fun hkept => hfresh (h.kept _ _ hkept)
  | @stored row awaited hplace =>
    cases awaited with
    | false => exact callOk_idle (fun _ _ hp => by cases hp) rfl
    | true => exact callOk_idle (fun _ _ hp => by cases hp) rfl
  | found hplace hrow haccount => exact callOk_verifying (h.stored _ _ _ hrow) fun token htoken => by cases htoken
  | @asked a session token hplace htoken =>
    refine callOk_verifying (hcall.attempt a (by rw [hplace]; rfl)) fun token' htoken' => ?_
    cases htoken'
    exact ⟨_, htoken⟩
  | @confirmed a session hplace =>
    refine callOk_passed rfl ((hcall.attempt a (by rw [hplace]; rfl)).mono hg) (.inr ?_) fun a' ha => by cases ha
    exact ⟨⟨i, a.code, session⟩, List.mem_append_right _ (List.mem_singleton_self _), rfl, rfl,
      hcall.asked a session hplace⟩
  | @ignored a session success hplace hignored =>
    exact callOk_passed rfl (hcall.attempt a (by rw [hplace]; rfl)) (.inl hignored) fun a' ha => by cases ha
  | @deleted a awaited hplace =>
    have hpassed : call.place.passed? = some a := by rw [hplace]; rfl
    cases awaited with
    | false => exact callOk_idle (fun _ _ hp => by cases hp) rfl
    | true =>
      refine callOk_passed rfl ((hcall.attempt a (passed_attempt hpassed)).mono hg) ((hcall.passed a hpassed).mono hg)
        fun a' ha => ?_
      cases ha
      exact List.mem_append_right _ (List.mem_singleton_self _)
  | @signedIn a hplace =>
    have hdone : call.place.done? = some a := by rw [hplace]; rfl
    refine callOk_passed rfl (hcall.attempt a (passed_attempt (done_passed hdone))) (hcall.passed a (done_passed hdone))
      fun a' ha => ?_
    cases ha
    exact hcall.done a hdone
  | @leftStoring row awaited hplace =>
    obtain ⟨hcreated, hkept⟩ := hcall.storing row awaited hplace
    exact callOk_storing hcreated hkept
  | @leftDeleting a awaited hplace =>
    have hpassed : call.place.passed? = some a := by rw [hplace]; rfl
    exact callOk_passed rfl (hcall.attempt a (passed_attempt hpassed)) (hcall.passed a hpassed) fun a' ha => by cases ha
  | refused _ error => exact callOk_idle (fun _ _ hp => by cases hp) rfl
  | failed _ => exact callOk_idle (fun _ _ hp => by cases hp) rfl

/-- A call that waits with its record while another one stores its own: their ids differ. -/
theorem storing_apart (h : Inv d s) {j : Nat} {call' : Call} {row row' : StoredOtp} {awaited awaited' : Bool}
    (hi : s.calls[i]? = some call) (hj : s.calls[j]? = some call') (hplace : call.place = .storing row awaited)
    (hplace' : call'.place = .storing row' awaited') (hne : j ≠ i) : row'.otpId ≠ row.otpId := by
  obtain ⟨⟨c, hc, hcall, -, rfl⟩, -⟩ := (h.calls i call hi).storing row awaited hplace
  obtain ⟨⟨c', hc', hcall', -, rfl⟩, -⟩ := (h.calls j call' hj).storing row' awaited' hplace'
  intro hid
  rw [← hcall, ← hcall', h.creation_unique hc' hc hid] at hne
  exact hne rfl

/-- The other calls. -/
theorem callOk_others (h : Inv d s) {j : Nat} {call' : Call} (hi : s.calls[i]? = some call)
    (hj : s.calls[j]? = some call')
    (hne : j ≠ i) (hmove : Moves d s i call act place effect) :
    CallOk d (effect.apply (d.replica call.replica).storage s) j call' := by
  have hcall' := h.calls j call' hj
  refine hcall'.mono (Grows.apply _ s effect) fun row' awaited' hplace' => ?_
  obtain ⟨-, hkept⟩ := hcall'.storing row' awaited' hplace'
  cases hmove with
  | @stored row awaited hplace =>
    have hid := storing_apart h hi hj hplace hplace' hne
    simp only [Effect.apply, List.mem_append, List.mem_singleton, Prod.mk.injEq, not_or, not_and]
    exact ⟨hkept, fun _ => hid⟩
  | accepted _ _ | found _ _ _ | asked _ _ | confirmed _ | ignored _ _ | deleted _ | signedIn _ | leftStoring _
  | leftDeleting _ | refused _ _ | failed _ => exact hkept

theorem records_moves (h : Inv d s) (hi : s.calls[i]? = some call) (hmove : Moves d s i call act place effect) :
    Records d (effect.apply (d.replica call.replica).storage s) := by
  have hg := Grows.apply (d.replica call.replica).storage s effect
  cases hmove with
  | @accepted userRef iAccount otpId nonce hplace hfresh =>
    refine ⟨?_, ?_, fun storage otpId hkept => ?_,
      fun storage otpId row hrow => (h.stored _ _ _ hrow).mono hg, h.retired⟩
    · rw [Effect.apply, List.map_append, List.nodup_append]
      refine ⟨h.ids, List.nodup_singleton _, fun id hid id' hid' heq => ?_⟩
      obtain rfl : id' = otpId := List.mem_singleton.1 hid'
      exact hfresh (heq ▸ hid)
    · intro c hc
      rcases List.mem_append.1 hc with hold | hnew
      · exact h.token c hold
      · obtain rfl := List.mem_singleton.1 hnew
        rfl
    · rw [Effect.apply, List.map_append]
      exact List.mem_append_left _ (h.kept storage otpId hkept)
  | @stored row awaited hplace =>
    obtain ⟨⟨c, hc, -, hr, rfl⟩, hfresh⟩ := (h.calls i call hi).storing row awaited hplace
    refine ⟨h.ids, h.token, fun storage otpId hkept => ?_, fun storage otpId row' hrow => ?_,
      fun storage otpId hretired => ?_⟩
    · rcases List.mem_append.1 hkept with hold | hnew
      · exact h.kept storage otpId hold
      · obtain ⟨-, rfl⟩ := Prod.mk.inj (List.mem_singleton.1 hnew)
        exact List.mem_map_of_mem hc
    · rw [Effect.apply, get_update_set] at hrow
      split at hrow
      · rename_i hhere
        obtain ⟨rfl, rfl⟩ := hhere
        obtain rfl := Option.some.inj hrow
        exact ⟨rfl, List.mem_append_right _ (List.mem_singleton_self _), c, hc, by rw [hr], rfl⟩
      · exact (h.stored storage otpId row' hrow).mono hg
    · obtain ⟨hkept, hgone⟩ := h.retired storage otpId hretired
      refine ⟨List.mem_append_left _ hkept, ?_⟩
      rw [Effect.apply, get_update_set, if_neg, hgone]
      -- an id that was retired has been stored, and this record has not
      rintro ⟨rfl, rfl⟩
      exact hfresh hkept
  | @deleted a awaited hplace =>
    obtain ⟨-, hkept, -⟩ := (h.calls i call hi).attempt a (by rw [hplace]; rfl)
    refine ⟨h.ids, h.token, h.kept, fun storage otpId row hrow => ?_, fun storage otpId hretired => ?_⟩
    · rw [Effect.apply, get_update_erase] at hrow
      split at hrow
      · cases hrow
      · exact (h.stored storage otpId row hrow).mono hg
    · rw [Effect.apply, get_update_erase]
      rcases List.mem_append.1 hretired with hold | hnew
      · obtain ⟨hkept', hgone⟩ := h.retired storage otpId hold
        exact ⟨hkept', by rw [hgone, ite_self]⟩
      · obtain ⟨rfl, rfl⟩ := Prod.mk.inj (List.mem_singleton.1 hnew)
        exact ⟨hkept, if_pos ⟨rfl, rfl⟩⟩
  | confirmed _ =>
    exact ⟨h.ids, h.token, h.kept, fun storage otpId row hrow => (h.stored _ _ _ hrow).mono hg, h.retired⟩
  | found _ _ _ | asked _ _ | ignored _ _ | signedIn _ | leftStoring _ | leftDeleting _ | refused _ _ | failed _ =>
    exact h.toRecords

/-- A call begins. -/
theorem inv_begin (h : Inv d s) {r : Nat} (hstoring : ∀ row awaited, place ≠ .storing row awaited)
    (hattempt : place.attempt? = none) : Inv d { s with calls := s.calls ++ [⟨r, place⟩] } := by
  refine ⟨⟨h.ids, h.token, h.kept, h.stored, h.retired⟩, fun j call' hj => ?_⟩
  rcases calls_snoc hj with hold | ⟨-, rfl⟩
  · exact (h.calls j call' hold).same ⟨fun _ h => h, fun _ h => h, fun _ h => h, fun _ h => h⟩ rfl
  · exact callOk_idle hstoring hattempt

theorem inv_step (h : Inv d s) (hstep : step d s e = some t) : Inv d t := by
  cases e with
  | generate r userRef iAccount =>
    cases hstep
    exact inv_begin h (fun _ _ hp => by cases hp) rfl
  | validate r otpId code =>
    cases hstep
    exact inv_begin h (fun _ _ hp => by cases hp) rfl
  | session r token =>
    cases hstep
    exact ⟨⟨h.ids, h.token, h.kept, h.stored, h.retired⟩, fun j call' hj =>
      (h.calls j call' hj).same ⟨fun _ h => h, fun _ h => h, fun _ h => h, fun _ h => h⟩ rfl⟩
  | dropped storage otpId =>
    cases hstep
    refine ⟨⟨h.ids, h.token, h.kept, fun storage' otpId' row hrow => ?_, fun storage' otpId' hretired => ?_⟩,
      fun j call' hj =>
      (h.calls j call' hj).same ⟨fun _ h => h, fun _ h => h, fun _ h => h, fun _ h => h⟩ rfl⟩
    · rw [get_update_erase] at hrow
      split at hrow
      · cases hrow
      · exact h.stored storage' otpId' row hrow
    · obtain ⟨hkept, hgone⟩ := h.retired storage' otpId' hretired
      exact ⟨hkept, by rw [get_update_erase, hgone, ite_self]⟩
  | call i act =>
    obtain ⟨call, place, effect, hi, hmove, -, rfl⟩ := step_call hstep
    obtain ⟨hids, htoken, hkept, hstored, hretired⟩ := records_moves h hi hmove
    refine ⟨⟨hids, htoken, hkept, hstored, hretired⟩, fun j call' hj => ?_⟩
    have hok : CallOk d (effect.apply (d.replica call.replica).storage s) j call' := by
      rcases calls_set hi hj with ⟨rfl, rfl⟩ | ⟨hne, hold⟩
      · exact callOk_moves h hi hmove
      · exact callOk_others h hi hold hne hmove
    exact hok.same ⟨fun _ h => h, fun _ h => h, fun _ h => h, fun _ h => h⟩ rfl

theorem inv_exec (hrun : exec (step d) {} es = some t) : Inv d t := by
  refine exec_induction (P := fun _ t => Inv d t) ?_ (fun _ _ _ _ _ h hstep => inv_step h hstep) hrun
  exact ⟨⟨List.nodup_nil, by simp, by simp, fun _ _ _ hrow => (by cases hrow), by simp⟩, by simp⟩

/-! ## Sessions -/

theorem given_given {token : Option String} : given (given token) = given token := by
  simp [given, Option.filter_filter]

/-- A replica with the secret of the one that stored a token reads it back. -/
theorem pinnedSession_storedToken (cipher : Cipher) (secret nonce : String) (session : Option String) :
    pinnedSession cipher secret (storedToken cipher secret nonce session) = given session := by
  cases hsession : given session with
  | none =>
    rw [pinnedSession, storedToken, hsession]
    rfl
  | some token =>
    have hcipher : given (some (cipher.encryptSecret secret nonce token)) =
        some (cipher.encryptSecret secret nonce token) :=
      Option.filter_some_pos (by simp [cipher.encrypt_ne_empty])
    rw [pinnedSession, storedToken, hsession, Option.map_some, hcipher, Option.bind_some,
      cipher.decrypt_encrypt, ← hsession,
      given_given]

/-! ## Where codes come from -/

/-- What the events say of the calls and the codes. -/
structure Origin (es : List Event) (s : State) : Prop where
  creating : ∀ (i r : Nat) (userRef : String) (iAccount : Int), s.calls[i]? = some ⟨r, .creating userRef iAccount⟩ →
    Event.generate r userRef iAccount ∈ es
  created : ∀ c ∈ s.created, Event.generate c.replica c.row.userRef c.row.iAccount ∈ es ∧
    Event.call c.call (.accepted c.row.otpId c.nonce) ∈ es
  confirmed : ∀ c ∈ s.confirmed, Event.call c.call (.verified (some true)) ∈ es

theorem Origin.mono (h : Origin es s) (e : Event) : Origin (es ++ [e]) s where
  creating i r userRef iAccount hi := List.mem_append_left _ (h.creating i r userRef iAccount hi)
  created c hc := ⟨List.mem_append_left _ (h.created c hc).1, List.mem_append_left _ (h.created c hc).2⟩
  confirmed c hc := List.mem_append_left _ (h.confirmed c hc)

theorem origin_moves (h : Origin es s) (hi : s.calls[i]? = some call) (hmove : Moves d s i call act place effect) :
    Origin (es ++ [.call i act])
      { effect.apply (d.replica call.replica).storage s with calls := s.calls.set i { call with place := place } } := by
  have hnow : Event.call i act ∈ es ++ [.call i act] := List.mem_append_right _ (List.mem_singleton_self _)
  obtain ⟨hcreating, hcreated, hconfirmed⟩ := h.mono (.call i act)
  refine ⟨fun j r userRef iAccount hj => ?_, fun c hc => ?_, fun c hc => ?_⟩
  · rcases calls_set hi hj with ⟨-, hmoved⟩ | ⟨-, hold⟩
    · -- no call comes to `creating` from elsewhere
      cases hmove with
      | @stored row awaited hplace => cases awaited <;> cases hmoved
      | @deleted a awaited hplace => cases awaited <;> cases hmoved
      | accepted _ _ | found _ _ _ | asked _ _ | confirmed _ | ignored _ _ | signedIn _ | leftStoring _
      | leftDeleting _ | refused _ _ | failed _ => cases hmoved
    · exact hcreating j r userRef iAccount hold
  · cases hmove with
    | accepted hplace hfresh =>
      rcases List.mem_append.1 hc with hold | hnew
      · exact hcreated c hold
      · obtain rfl := List.mem_singleton.1 hnew
        obtain ⟨r, at_⟩ := call
        obtain rfl := hplace
        exact ⟨hcreating i r _ _ hi, hnow⟩
    | stored _ | found _ _ _ | asked _ _ | confirmed _ | ignored _ _ | deleted _ | signedIn _ | leftStoring _
    | leftDeleting _ | refused _ _ | failed _ => exact hcreated c hc
  · cases hmove with
    | confirmed hplace =>
      rcases List.mem_append.1 hc with hold | hnew
      · exact hconfirmed c hold
      · obtain rfl := List.mem_singleton.1 hnew
        exact hnow
    | accepted _ _ | stored _ | found _ _ _ | asked _ _ | ignored _ _ | deleted _ | signedIn _ | leftStoring _
    | leftDeleting _ | refused _ _ | failed _ => exact hconfirmed c hc

theorem origin_exec (hrun : exec (step d) {} es = some t) : Origin es t := by
  refine exec_induction (P := Origin) ⟨by simp, by simp, by simp⟩ ?_ hrun
  intro fs m e m' _ h hstep
  obtain ⟨hcreating, hcreated, hconfirmed⟩ := h.mono e
  cases e with
  | generate r userRef iAccount =>
    cases hstep
    refine ⟨fun j r' userRef' iAccount' hj => ?_, hcreated, hconfirmed⟩
    rcases calls_snoc hj with hold | ⟨-, hnew⟩
    · exact hcreating j r' userRef' iAccount' hold
    · cases hnew
      exact List.mem_append_right _ (List.mem_singleton_self _)
  | validate r otpId code =>
    cases hstep
    refine ⟨fun j r' userRef' iAccount' hj => ?_, hcreated, hconfirmed⟩
    rcases calls_snoc hj with hold | ⟨-, hnew⟩
    · exact hcreating j r' userRef' iAccount' hold
    · cases hnew
  | session r token =>
    cases hstep
    exact ⟨hcreating, hcreated, hconfirmed⟩
  | dropped storage otpId =>
    cases hstep
    exact ⟨hcreating, hcreated, hconfirmed⟩
  | call i act =>
    obtain ⟨call, place, effect, hi, hmove, -, rfl⟩ := step_call hstep
    exact origin_moves h hi hmove

end Invariant

/-! ## An office with two replicas -/

/-- A cipher that writes the secret before the text. -/
def plainCipher : Cipher where
  encryptSecret secret _ plaintext := String.ofList ('.' :: secret.toList ++ plaintext.toList)
  decryptSecret secret ciphertext :=
    if ('.' :: secret.toList) <+: ciphertext.toList
      then some (String.ofList (ciphertext.toList.drop (secret.toList.length + 1)))
    else none
  decrypt_encrypt secret _ plaintext := by simp
  encrypt_ne_empty secret _ plaintext := by simp [String.ext_iff]

/-- The replicas 0 and 1 have one storage. -/
def office : Deployment := ⟨plainCipher, fun r => { adminApiToken := "secret", storage := r / 2 }⟩

def codeSent : List Event :=
  [.session 0 (some "s0"), .generate 0 "ann" 7, .call 0 (.accepted "o1" "n"), .call 0 .stored]

def relogins : List Event := [.session 0 (some "s2"), .session 1 (some "s1")]

def signIn : List Event :=
  [.validate 1 "o1" "1234", .call 1 .retrieved, .call 1 .asked, .call 1 (.verified (some true)), .call 1 .deleted,
    .call 1 (.loggedIn true)]

def annRow : StoredOtp := ⟨"o1", 7, "ann", some ".secrets0"⟩

def annCreation : Creation := ⟨0, 0, some "s0", "n", annRow⟩

theorem code_sent : ∃ s, exec (step office) {} codeSent = some s ∧ s.created = [annCreation] ∧
    (s.storages 0).get "o1" = some annRow := by
  have hsees : (exec (step office) {} codeSent).map (fun s => (s.created, (s.storages 0).get "o1")) =
      some ([annCreation], some annRow) := by decide +kernel
  obtain ⟨s, hrun, hs⟩ := Option.map_eq_some_iff.1 hsees
  exact ⟨s, hrun, Prod.mk.inj hs⟩

theorem signed_in : ∃ t, exec (step office) {} (codeSent ++ relogins ++ signIn) = some t ∧ t.created = [annCreation] ∧
    t.calls = [⟨0, .sent "o1"⟩, ⟨1, .signedIn ⟨"o1", "1234", annRow⟩⟩] := by
  have hsees : (exec (step office) {} (codeSent ++ relogins ++ signIn)).map (fun t => (t.created, t.calls)) =
      some ([annCreation], [⟨0, .sent "o1"⟩, ⟨1, .signedIn ⟨"o1", "1234", annRow⟩⟩]) := by decide +kernel
  obtain ⟨t, hrun, ht⟩ := Option.map_eq_some_iff.1 hsees
  exact ⟨t, hrun, Prod.mk.inj ht⟩

/-! ## Signing in -/

/-- **Who signs in.** A call that signs in does so for the account that a code was asked and accepted for, on a
replica with the same storage, under the id that the call was given. Unless the user is ignored, the switch confirmed
the call's code, and where the replicas have one secret it did so under the session that the record was made with. -/
theorem signed_in_by_code (es : List Event) (t : State) (hrun : exec (step d) {} es = some t) (i r : Nat) (a : Attempt)
    (hi : t.calls[i]? = some ⟨r, .signedIn a⟩) :
    ∃ c ∈ t.created, c.row = a.row ∧ a.row.otpId = a.otpId ∧ (d.replica c.replica).storage = (d.replica r).storage ∧
      Event.generate c.replica a.row.userRef a.row.iAccount ∈ es ∧ Event.call c.call (.accepted a.otpId c.nonce) ∈ es ∧
      (a.row.userRef ∈ (d.replica r).ignoreAccounts ∨
        ∃ session, ⟨i, a.code, session⟩ ∈ t.confirmed ∧ Event.call i (.verified (some true)) ∈ es ∧
          ((d.replica c.replica).adminApiToken = (d.replica r).adminApiToken →
            ∀ token, given c.session = some token → session = token)) := by
  have hinv := inv_exec hrun
  have horigin := origin_exec hrun
  have hcall := hinv.calls i _ hi
  obtain ⟨hid, -, c, hc, hstorage, hrow⟩ := hcall.attempt a rfl
  obtain ⟨hgenerate, haccepted⟩ := horigin.created c hc
  rw [hrow] at hgenerate haccepted
  rw [hid] at haccepted
  refine ⟨c, hc, hrow, hid, hstorage, hgenerate, haccepted, ?_⟩
  rcases hcall.passed a rfl with hignored | ⟨⟨j, code, session⟩, hconfirmed, hj, hcode, own, hasked⟩
  · exact .inl hignored
  · obtain rfl : j = i := hj
    obtain rfl : code = a.code := hcode
    refine .inr ⟨session, hconfirmed, horigin.confirmed _ hconfirmed, fun hsecret token htoken => ?_⟩
    have hpinned : pinnedSession d.cipher (d.replica r).adminApiToken a.row.bssToken = some token := by
      rw [← hrow, hinv.token c hc, hsecret, pinnedSession_storedToken, htoken]
    rw [sessionAsked, hpinned, Option.some_or] at hasked
    exact (Option.some.inj hasked).symm

theorem signed_in_by_code_office : ∃ t, exec (step office) {} (codeSent ++ relogins ++ signIn) = some t ∧
    ⟨1, "1234", "s0"⟩ ∈ t.confirmed := by
  obtain ⟨t, hrun, hcreated, hcalls⟩ := signed_in
  obtain ⟨c, hc, -, -, -, -, -, hcode⟩ :=
    signed_in_by_code office _ t hrun 1 1 ⟨"o1", "1234", annRow⟩ (by rw [hcalls]; rfl)
  rw [hcreated, List.mem_singleton] at hc
  subst hc
  rcases hcode with hignored | ⟨session, hconfirmed, -, hsame⟩
  · cases hignored
  · refine ⟨t, hrun, ?_⟩
    rwa [← hsame rfl "s0" (by decide)]

/-! ## A code that was used -/

section Used

variable {d} {s t : State} {i : Nat} {call : Call} {act : Act} {place : Place} {effect : Effect}
    {e : Event} {es : List Event}
  {storage : Nat} {otpId : String} {a : Attempt}

/-- A call that holds a record after a move held it before, or has just read it. -/
theorem moves_attempt (hmove : Moves d s i call act place effect) (ha : place.attempt? = some a) :
    call.place.attempt? = some a ∨ (s.storages (d.replica call.replica).storage).get a.otpId = some a.row := by
  cases hmove with
  | accepted _ _ | leftStoring _ | refused _ _ | failed _ => cases ha
  | @stored row awaited hplace => cases awaited <;> cases ha
  | found hplace hrow haccount =>
    cases ha
    exact .inr hrow
  | @deleted a' awaited hplace =>
    cases awaited with
    | false => cases ha
    | true =>
      cases ha
      rw [hplace]
      exact .inl rfl
  | asked hplace _ | confirmed hplace | ignored hplace _ | signedIn hplace | leftDeleting hplace =>
    cases ha
    rw [hplace]
    exact .inl rfl

theorem attempt_step (h : Inv d s) (hretired : (storage, otpId) ∈ s.retired) (hstep : step d s e = some t) {r : Nat}
    (hi : t.calls[i]? = some ⟨r, place⟩) (hr : (d.replica r).storage = storage) (ha : place.attempt? = some a)
    (hid : a.otpId = otpId) : ∃ place', s.calls[i]? = some ⟨r, place'⟩ ∧ place'.attempt? = some a := by
  cases e with
  | generate r' userRef iAccount =>
    cases hstep
    rcases calls_snoc hi with hold | ⟨-, hnew⟩
    · exact ⟨place, hold, ha⟩
    · cases hnew
      cases ha
  | validate r' otpId' code =>
    cases hstep
    rcases calls_snoc hi with hold | ⟨-, hnew⟩
    · exact ⟨place, hold, ha⟩
    · cases hnew
      cases ha
  | session r' token =>
    cases hstep
    exact ⟨place, hi, ha⟩
  | dropped storage' otpId' =>
    cases hstep
    exact ⟨place, hi, ha⟩
  | call j act =>
    obtain ⟨call, place', effect, hj, hmove, -, rfl⟩ := step_call hstep
    rcases calls_set hj hi with ⟨rfl, hmoved⟩ | ⟨-, hold⟩
    · obtain ⟨r', at_⟩ := call
      cases hmoved
      rcases moves_attempt hmove ha with hbefore | hread
      · exact ⟨at_, hj, hbefore⟩
      · -- the record is gone where it was retired
        have hgone := (h.retired storage otpId hretired).2
        rw [hr, hid, hgone] at hread
        cases hread
    · exact ⟨place, hold, ha⟩

/-- A call that waits for a record that is not there. -/
theorem retrieved_missing {r : Nat} {code : String} (hi : s.calls[i]? = some ⟨r, .retrieving otpId code⟩)
    (hgone : (s.storages (d.replica r).storage).get otpId = none) :
    ∃ t, step d s (.call i .retrieved) = some t ∧ t.calls[i]? = some ⟨r, .refused otpExpiredError⟩ := by
  refine ⟨{ s with calls := s.calls.set i ⟨r, .refused otpExpiredError⟩ }, ?_, ?_⟩
  · rw [step, hi]
    simp only [react, hgone]
    rfl
  · exact List.getElem?_set_self (List.getElem?_eq_some_iff.1 hi).1

end Used

/-- **A code is used once.** When a call has signed in, or is about to after it has deleted the record, no call that
has not read the record by then, on any replica with this storage, ever holds it or signs in with it: it is refused.
-/
theorem used_once (es es' : List Event) (s t : State) (hrun : exec (step d) {} es = some s)
    (hrun' : exec (step d) s es' = some t)
    (k r₀ : Nat) (place₀ : Place) (a₀ : Attempt) (hk : s.calls[k]? = some ⟨r₀, place₀⟩)
    (hdone : place₀.done? = some a₀) :
    (∀ (i r : Nat) (place : Place) (a : Attempt), t.calls[i]? = some ⟨r, place⟩ →
      (d.replica r).storage = (d.replica r₀).storage → place.attempt? = some a → a.otpId = a₀.otpId →
        ∃ place', s.calls[i]? = some ⟨r, place'⟩ ∧ place'.attempt? = some a) ∧
    ∀ (i r : Nat) (code : String), t.calls[i]? = some ⟨r, .retrieving a₀.otpId code⟩ →
      (d.replica r).storage = (d.replica r₀).storage →
        ∃ t', step d t (.call i .retrieved) = some t' ∧ t'.calls[i]? = some ⟨r, .refused otpExpiredError⟩ := by
  have hinv := inv_exec hrun
  have hretired : ((d.replica r₀).storage, a₀.otpId) ∈ s.retired := (hinv.calls k _ hk).done a₀ hdone
  obtain ⟨hinv', hretired', hbefore⟩ : Inv d t ∧ ((d.replica r₀).storage, a₀.otpId) ∈ t.retired ∧
      ∀ (i r : Nat) (place : Place) (a : Attempt), t.calls[i]? = some ⟨r, place⟩ →
        (d.replica r).storage = (d.replica r₀).storage → place.attempt? = some a → a.otpId = a₀.otpId →
          ∃ place', s.calls[i]? = some ⟨r, place'⟩ ∧ place'.attempt? = some a := by
    refine exec_induction (P := fun _ t => Inv d t ∧ ((d.replica r₀).storage, a₀.otpId) ∈ t.retired ∧
      ∀ (i r : Nat) (place : Place) (a : Attempt), t.calls[i]? = some ⟨r, place⟩ →
        (d.replica r).storage = (d.replica r₀).storage → place.attempt? = some a → a.otpId = a₀.otpId →
          ∃ place', s.calls[i]? = some ⟨r, place'⟩ ∧ place'.attempt? = some a) ?_ ?_ hrun'
    · exact ⟨hinv, hretired, fun i r place a hi _ ha _ => ⟨place, hi, ha⟩⟩
    · intro fs m e m' _ ⟨hm, hret, ih⟩ hstep
      refine ⟨inv_step hm hstep, (grows_step hstep).retired hret, fun i r place a hi hr ha hid => ?_⟩
      obtain ⟨place', hi', ha'⟩ := attempt_step hm hret hstep hi hr ha hid
      exact ih i r place' a hi' hr ha' hid
  refine ⟨hbefore, fun i r code hi hr => retrieved_missing hi ?_⟩
  rw [hr]
  exact (hinv'.retired _ _ hretired').2

theorem used_once_office : ∃ s t t', exec (step office) {} (codeSent ++ relogins ++ signIn) = some s ∧
    exec (step office) s [.validate 0 "o1" "1234"] = some t ∧ step office t (.call 2 .retrieved) = some t' ∧
      t'.calls[2]? = some ⟨0, .refused otpExpiredError⟩ := by
  obtain ⟨s, hrun, -, hcalls⟩ := signed_in
  obtain ⟨t', hstep, ht'⟩ :=
    (used_once office _ [.validate 0 "o1" "1234"] s _ hrun rfl 1 1 _ _ (by rw [hcalls]; rfl) rfl).2
    2 0 "1234" (by rw [hcalls]; rfl) rfl
  exact ⟨s, _, t', hrun, rfl, hstep, ht'⟩

/-! ## A code on another replica -/

section Replicas

variable {d} {s t : State} {i : Nat} {call : Call} {act : Act} {place : Place} {effect : Effect}
    {e : Event} {es : List Event}
  {storage : Nat} {otpId : String} {row : StoredOtp}

/-- A record stays where it is until it is dropped or deleted. -/
theorem record_step (h : Inv d s) (hrow : (s.storages storage).get otpId = some row) (hstep : step d s e = some t)
    (hdropped : e ≠ .dropped storage otpId) :
    (t.storages storage).get otpId = some row ∨ (storage, otpId) ∈ t.retired := by
  cases e with
  | generate r userRef iAccount => cases hstep; exact .inl hrow
  | validate r otpId' code => cases hstep; exact .inl hrow
  | session r token => cases hstep; exact .inl hrow
  | dropped storage' otpId' =>
    cases hstep
    rw [get_update_erase, if_neg, hrow]
    · exact .inl rfl
    · rintro ⟨rfl, rfl⟩
      exact hdropped rfl
  | call j act =>
    obtain ⟨call, place, effect, hj, hmove, -, rfl⟩ := step_call hstep
    cases hmove with
    | @stored row' awaited hplace =>
      obtain ⟨-, hkept⟩ := (h.calls j call hj).storing row' awaited hplace
      refine .inl ?_
      rw [Effect.apply, get_update_set, if_neg, hrow]
      -- no record is stored over another one
      rintro ⟨rfl, rfl⟩
      exact hkept (h.stored _ _ row hrow).2.1
    | @deleted a awaited hplace =>
      by_cases hhere : storage = (d.replica call.replica).storage ∧ otpId = a.otpId
      · obtain ⟨rfl, rfl⟩ := hhere
        exact .inr (List.mem_append_right _ (List.mem_singleton_self _))
      · refine .inl ?_
        rw [Effect.apply, get_update_erase, if_neg hhere, hrow]
    | accepted _ _ | found _ _ _ | asked _ _ | confirmed _ | ignored _ _ | signedIn _ | leftStoring _
    | leftDeleting _ | refused _ _ | failed _ => exact .inl hrow

theorem record_stays (h : Inv d s) (hrow : (s.storages storage).get otpId = some row)
    (hrun : exec (step d) s es = some t)
    (hdropped : Event.dropped storage otpId ∉ es) :
    (t.storages storage).get otpId = some row ∨ (storage, otpId) ∈ t.retired := by
  have hkeeps : Inv d t ∧ (Event.dropped storage otpId ∉ es →
      (t.storages storage).get otpId = some row ∨ (storage, otpId) ∈ t.retired) := by
    refine exec_induction (P := fun es t => Inv d t ∧ (Event.dropped storage otpId ∉ es →
      (t.storages storage).get otpId = some row ∨ (storage, otpId) ∈ t.retired)) ⟨h, fun _ => .inl hrow⟩ ?_ hrun
    intro fs m e m' _ ⟨hm, ih⟩ hstep
    refine ⟨inv_step hm hstep, fun hdropped => ?_⟩
    rw [List.mem_append, not_or, List.mem_singleton] at hdropped
    rcases ih hdropped.1 with hold | hretired
    · exact record_step hm hold hstep (Ne.symm hdropped.2)
    · exact .inr ((grows_step hstep).retired hretired)
  exact hkeeps.2 hdropped

/-- An act that a call waits for. -/
theorem step_react (hi : s.calls[i]? = some call) (hreact : react d s i call act = some (place, effect)) :
    ∃ t, step d s (.call i act) = some t ∧ t.calls[i]? = some { call with place := place } ∧
      Grows (effect.apply (d.replica call.replica).storage s) t := by
  refine ⟨{ effect.apply (d.replica call.replica).storage s with
    calls := s.calls.set i { call with place := place } }, ?_, ?_,
    fun _ h => h, fun _ h => h, fun _ h => h, fun _ h => h⟩
  · rw [step, hi]
    simp only [hreact, Option.map_some, apply_calls]
  · exact List.getElem?_set_self (List.getElem?_eq_some_iff.1 hi).1

theorem judge_confirmed (ignoreAccounts : List String) (i : Nat) (a : Attempt) (session : String) :
    judge ignoreAccounts i a session (some true) = (.deleting a true, .confirm ⟨i, a.code, session⟩) := by
  by_cases hignored : a.row.userRef ∈ ignoreAccounts <;> simp [judge, hignored]

theorem react_found {r : Nat} {code : String} (hrow : (s.storages (d.replica r).storage).get otpId = some row)
    (haccount : row.iAccount ≠ 0) :
    react d s i ⟨r, .retrieving otpId code⟩ .retrieved = some (.verifying ⟨otpId, code, row⟩ none, .nothing) := by
  simp only [react, hrow, readRecord, if_neg haccount]

theorem react_asked {r : Nat} {a : Attempt} {token : String}
    (hpinned : pinnedSession d.cipher (d.replica r).adminApiToken a.row.bssToken = some token) :
    react d s i ⟨r, .verifying a none⟩ .asked = some (.verifying a (some token), .nothing) := by
  simp [react, sessionAsked, hpinned]

theorem react_confirmed {r : Nat} {a : Attempt} {session : String} :
    react d s i ⟨r, .verifying a (some session)⟩ (.verified (some true)) =
      some (.deleting a true, .confirm ⟨i, a.code, session⟩) := by
  simp only [react, judge_confirmed]

theorem react_deleted {r : Nat} {a : Attempt} :
    react d s i ⟨r, .deleting a true⟩ .deleted = some (.loggingIn a, .retire a.otpId) := rfl

theorem react_loggedIn {r : Nat} {a : Attempt} :
    react d s i ⟨r, .loggingIn a⟩ (.loggedIn true) = some (.signedIn a, .nothing) := rfl

end Replicas

/-- **A code can be used on any replica** that has the storage and the secret of the one that created it, as long as
its record is not dropped and no call has deleted it, whatever else goes on, the admin sessions of the replicas
included: the code is verified under the session that its record was made with. -/
theorem works_on_replicas (es es' : List Event) (s t : State) (hrun : exec (step d) {} es = some s)
    (hrun' : exec (step d) s es' = some t) (c : Creation)
    (hrow : (s.storages (d.replica c.replica).storage).get c.row.otpId = some c.row) (hc : c ∈ s.created)
    (haccount : c.row.iAccount ≠ 0) (hdropped : Event.dropped (d.replica c.replica).storage c.row.otpId ∉ es')
    (hretired : ((d.replica c.replica).storage, c.row.otpId) ∉ t.retired) (token : String)
    (htoken : given c.session = some token)
    (r : Nat) (hstorage : (d.replica r).storage = (d.replica c.replica).storage)
    (hsecret : (d.replica r).adminApiToken = (d.replica c.replica).adminApiToken) (code : String) :
    ∃ t', exec (step d) t [.validate r c.row.otpId code, .call t.calls.length .retrieved, .call t.calls.length .asked,
        .call t.calls.length (.verified (some true)), .call t.calls.length .deleted,
          .call t.calls.length (.loggedIn true)] =
          some t' ∧
      t'.calls[t.calls.length]? = some ⟨r, .signedIn ⟨c.row.otpId, code, c.row⟩⟩ ∧
      ⟨t.calls.length, code, token⟩ ∈ t'.confirmed := by
  have hinv := inv_exec hrun
  have hthere : (t.storages (d.replica r).storage).get c.row.otpId = some c.row := by
    rw [hstorage]
    exact (record_stays hinv hrow hrun' hdropped).resolve_right hretired
  have hpinned : pinnedSession d.cipher (d.replica r).adminApiToken c.row.bssToken = some token := by
    rw [hinv.token c hc, hsecret, pinnedSession_storedToken, htoken]
  let s₀ : State := { t with calls := t.calls ++ [⟨r, .retrieving c.row.otpId code⟩] }
  have hi₀ : s₀.calls[t.calls.length]? = some ⟨r, .retrieving c.row.otpId code⟩ := List.getElem?_concat_length
  obtain ⟨s₁, hstep₁, hi₁, -⟩ := step_react hi₀ (react_found hthere haccount)
  obtain ⟨s₂, hstep₂, hi₂, -⟩ := step_react hi₁ (react_asked hpinned)
  obtain ⟨s₃, hstep₃, hi₃, hg₃⟩ := step_react hi₂ react_confirmed
  obtain ⟨s₄, hstep₄, hi₄, hg₄⟩ := step_react (d := d) hi₃ react_deleted
  obtain ⟨s₅, hstep₅, hi₅, hg₅⟩ := step_react (d := d) hi₄ react_loggedIn
  refine ⟨s₅, ?_, hi₅,
    hg₅.confirmed (hg₄.confirmed (hg₃.confirmed (List.mem_append_right _ (List.mem_singleton_self _))))⟩
  exact exec_cons.2 ⟨s₀, rfl, exec_cons.2 ⟨s₁, hstep₁, exec_cons.2 ⟨s₂, hstep₂, exec_cons.2 ⟨s₃, hstep₃,
    exec_cons.2 ⟨s₄, hstep₄, exec_cons.2 ⟨s₅, hstep₅, rfl⟩⟩⟩⟩⟩⟩

theorem works_on_replicas_office : ∃ s t t' : State, exec (step office) {} codeSent = some s ∧
    exec (step office) s relogins = some t ∧
    exec (step office) t [.validate 1 "o1" "1234", .call t.calls.length .retrieved, .call t.calls.length .asked,
      .call t.calls.length (.verified (some true)), .call t.calls.length .deleted,
        .call t.calls.length (.loggedIn true)] =
        some t' ∧
    ⟨t.calls.length, "1234", "s0"⟩ ∈ t'.confirmed := by
  obtain ⟨s, hrun, hcreated, hrow⟩ := code_sent
  have hretired : s.retired = [] := by
    have hnone : (exec (step office) {} codeSent).map (·.retired) = some [] := by decide +kernel
    rw [hrun] at hnone
    exact Option.some.inj hnone
  obtain ⟨t', hrun', -, hconfirmed⟩ := works_on_replicas office codeSent relogins s _ hrun rfl annCreation hrow
    (by simp [hcreated]) (by decide) (by decide) (by rw [hretired]; exact List.not_mem_nil) "s0"
      (by decide) 1 rfl rfl "1234"
  exact ⟨s, _, t', hrun, rfl, hrun', hconfirmed⟩

end PortaPhone.SignIn.OtpReplicas
