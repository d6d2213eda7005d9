import PortaPhone.Api.Routes
import PortaPhone.SignIn.OtpReplicas
/-!
# Sessions of the account realm (`portaswitch/adapter.py`)

| here | there |
| --- | --- |
| `Adapter`                | an adapter with its settings, and what it uses of `jose`, of Fernet and of `str.isdigit` |
| `Realms`                 | what the switch answers while one request is handled |
| `validateSession`        | `validate_session` (`:818`) |
| `emulateAccountLogin`, `refreshSession` | `_emulate_account_login` (`:3452`), `refresh_session` (`:859`) |
| `closeSession`, `signup` | `close_session` (`:905`), `signup` (`:2487`) |
| `accessTokenExpiresIn` | `access_token_expires_in` (`api/account.py:498`) |
| `verifyCode`, `validateOtp` | `validate_otp` (`:759`) up to the deletion of the record, and the whole of it |
| `customMethodPrivate`    | `custom_method_private` (`:2854`), `_custom_pages` (`:2876`), `_external_page_access_token` (`:2894`) |
| `Request`, `handle`      | the routes of `main.py` that open, renew or end a session, with their checks of a capability |
| `step`                   | any number of these requests, of one client and of others |

An adapter keeps no session: what it knows of one is in the token, and in the switch. Only the records of codes are
its own, in one storage here. Each request comes with answers of its own, so that the switch, the clock and the other
requests are free between any two; within one request the same question is answered the same.
-/

namespace PortaPhone.SignIn.AccountSessions

open Api (Capability)
open Contacts (Attr)
open OtpReplicas (Cipher given pinnedSession otpExpiredError incorrectOtpCodeError)

/-! ## Errors (`portaswitch/exceptions.py`) -/

def accessTokenInvalidError : WebTritError := ⟨401, "Access token invalid", some "access_token_invalid", none⟩

def accessTokenExpiredError : WebTritError := ⟨401, "Access token expired", some "access_token_expired", none⟩

def sessionUpgradeNeededError : WebTritError :=
  ⟨401, "Token format is outdated. Migration required.", some "session_upgrade_needed", none⟩

def methodNotFoundError (methodName : String) : WebTritError :=
  ⟨404, "Method '" ++ methodName ++ "' not found", some "method_not_found", none⟩

def passwordChangeRequiredError : WebTritError :=
  ⟨422, "Failed to perform authentication using this account. Try changing this account web-password.", none, none⟩

def refreshTokenInvalidError : WebTritError := ⟨422, "Invalid refresh token", some "refresh_token_invalid", none⟩

def sessionCloseError : WebTritError := ⟨422, "Error closing the session", none, none⟩

def missingTokensError : WebTritError := ⟨422, "Missing required access or refresh token parameters", none, none⟩

/-- An `except` clause that raises another error for some fault codes. -/
def replaceFault (faults : List String) (instead : WebTritError) : Failure → Failure
  | .webTrit error => if error.faultCode.any (· ∈ faults) then .webTrit instead else .webTrit error
  | .raised error => .raised error

/-! ## The adapter and the switch -/

inductive JwtError
  | expired
  | invalid
deriving DecidableEq, Repr

structure Adapter where
  settings : Settings := {}
  supported : List Capability
  passwordForced : Bool := false
  adminApiToken : String
  ignoreAccounts : List String := []
  selfConfigPortalUrl : Option String := none
  enableOnDemandSessionMigration : Bool := false
  /-- The accounts by the hashes of their ids. -/
  hashDictionary : String → Option Int := fun _ => none
  cipher : Cipher
  /-- The claims of a token, read without its signature: what `str` makes of `i_account`, if it is there. -/
  decode : (now : Int) → (accessToken : String) → Except JwtError (Option String)
  /-- The `exp` among them, if it is a number. -/
  exp : (accessToken : String) → Option Int := fun _ => none
  /-- The digits that are not those of ASCII. -/
  unicodeDigit : Char → Bool := fun _ => false
  /-- Which other attributes the object has, that are true. None of them can be called as a method is called here. -/
  otherAttribute : String → Bool := fun _ => false

/-- The two realms. `accountInfoOf` is `get_account_info` for the text of an `i_account`, and an answer of `ping` is
what `str` makes of its `user_id`, if that is true. -/
structure Realms extends Switch where
  accountInfoOf : (iAccount : String) → Except Failure (Option AccountInfo)
  verifyOtp : (code : String) → (bssToken : Option String) → Except Failure (Attr Int)
  refresh : (refreshToken : String) → Except Failure SessionData
  ping : (accessToken : String) → Except Failure (Option String)
  logout : (accessToken : String) → Except Failure (Attr Int)
  ownAccountInfo : (accessToken : Option String) → Except Failure (Attr AccountInfo)

/-- What a request draws and meets: the time, the new ids, the bytes that Fernet adds, and whether a record can be
stored. -/
structure Fresh where
  now : Int := 0
  uuid : String := ""
  otpId : String := ""
  nonce : String := ""
  store : StoredOtp → Except Failure Unit := fun _ => .ok ()

variable (a : Adapter) (realms : Realms) (fresh : Fresh)

def outside : Outside := ⟨fresh.uuid, fresh.otpId, a.cipher.encryptSecret a.adminApiToken fresh.nonce, fresh.store⟩

/-! ## Sessions -/

/-- A token of the older adapter is no JWT. One without `i_account` is of a login through the admin realm. -/
def validateSession (accessToken : String) : Except Failure Api.SessionInfo :=
  match a.decode fresh.now accessToken with
  | .error .expired => .error (.webTrit accessTokenExpiredError)
  | .error .invalid =>
    .error (.webTrit (if a.enableOnDemandSessionMigration then sessionUpgradeNeededError else accessTokenInvalidError))
  | .ok (some userId) => .ok ⟨userId, accessToken⟩
  | .ok none => do
    match ← (realms.ping accessToken).mapError
      (replaceFault ["Client.Session.ping.failed_to_process_access_token"] accessTokenInvalidError) with
    | none => .error (.webTrit accessTokenInvalidError)
    | some userId => .ok ⟨userId, accessToken⟩

/-- Without an account the login fails on the record, after the version is read. -/
def emulateAccountLogin (iAccount : String) : Except Failure SessionData := do
  match ← realms.accountInfoOf iAccount with
  | some accountInfo => loginAccount realms.toAdminApi realms.accountApi fresh.uuid accountInfo
  | none =>
    let version ← realms.getVersion
    .error (.raised (if versionWithToken ≤ version then .attributeError else .typeError))

/-- `str.isdigit`. -/
def Adapter.isdigit (s : String) : Bool := s ≠ "" && s.toList.all fun c => c.isDigit || a.unicodeDigit c

/-- What a refresh token is exchanged for: with the migration on, one of digits for a session of the account that it
names. -/
def refreshedSession (refreshToken : String) : Except Failure SessionData :=
  if a.enableOnDemandSessionMigration && a.isdigit refreshToken then
    emulateAccountLogin realms fresh ((a.hashDictionary refreshToken).elim refreshToken toString)
  else realms.refresh refreshToken

/-- The session of an account that the switch names by the new token. Only its customer is told of the limits. -/
def ownSession (data : SessionData) : Except Failure SessionInfo := do
  let accessToken ← lookup (data.accessToken.index "access_token")
  match ← lookup ((← realms.ownAccountInfo (given accessToken)).index "account_info") with
  | none => .error (.raised .attributeError)
  | some accountInfo =>
    let refreshToken ← lookup (data.refreshToken.index "refresh_token")
    match ← lookup (data.expiresIn.index "expires_in") with
    | none => .error (.raised .typeError)
    | some expiresIn => match accessToken with
      | none => .error (.raised (.validationError "access_token"))
      | some accessToken =>
        .ok ⟨accountInfo.iAccount, accessToken, refreshToken, expiresIn,
          ⟨accountInfo.iCustomer.get?, none, none, none, none⟩⟩

def refreshFaults : List String :=
  ["Server.Session.refresh_access_token.refresh_failed", "Client.Session.check_auth.failed_to_process_access_token"]

def refreshSession (refreshToken : String) : Except Failure SessionInfo :=
  (refreshedSession a realms fresh refreshToken >>= ownSession realms).mapError
    (replaceFault refreshFaults refreshTokenInvalidError)

/-- A session that is gone is closed. -/
def closeSession (accessToken : String) : Except Failure Bool :=
  match realms.logout accessToken with
  | .ok success => do .ok (decide ((← lookup (success.index "success")) = some 1))
  | .error (.webTrit error) =>
    if error.faultCode = some "Client.Session.logout.failed_to_process_access_token"
      then .error (.webTrit sessionCloseError)
    else if error.faultCode = some "Server.Session.logout.session_id_does_not_exists" then .ok true
    else .error (.webTrit error)
  | .error (.raised error) => .error (.raised error)

/-- A session that the client had before. -/
structure SignedUp where
  userId : Int
  accessToken : String
  refreshToken : String
  expiresIn : Option Nat
  limits : DeviceLimits
deriving DecidableEq, Repr

def accessTokenExpiresIn (accessToken : String) : Option Nat :=
  (a.exp accessToken).map fun exp => (exp - fresh.now).toNat

def signup (accessToken refreshToken : Option String) : Except Failure SignedUp :=
  match given accessToken, given refreshToken with
  | some accessToken, some refreshToken =>
    (do
      match ← lookup ((← realms.ownAccountInfo (some accessToken)).index "account_info") with
      | none => .error (.raised .attributeError)
      | some accountInfo =>
        .ok ⟨accountInfo.iAccount, accessToken, refreshToken, accessTokenExpiresIn a fresh accessToken,
          readDeviceLimits a.settings realms.toAdminApi accountInfo⟩ : Except Failure SignedUp).mapError
      (replaceFault ["Client.Session.check_auth.failed_to_process_access_token"] accessTokenExpiredError)
  | _, _ => .error (.webTrit missingTokensError)

/-! ## Codes -/

/-- The record of the id, if the code is right for it. -/
def verifyCode (stored : Option StoredOtp) (code : String) : Except Failure StoredOtp :=
  match stored with
  | none => .error (.webTrit otpExpiredError)
  | some row =>
    if row.iAccount = 0 then .error (.webTrit otpExpiredError)
    else do
      let answer ← realms.verifyOtp code (pinnedSession a.cipher a.adminApiToken row.bssToken)
      if row.userRef ∈ a.ignoreAccounts then .ok row
      else
        let success ← lookup (answer.index "success")
        if success = none ∨ success = some 0 then .error (.webTrit (incorrectOtpCodeError code)) else .ok row

def codeSession (row : StoredOtp) : Except Failure SessionInfo := do
  match ← realms.accountInfoOf (toString row.iAccount) with
  | none => .error (.webTrit (notFoundUserError (toString row.iAccount)))
  | some accountInfo =>
    let session ← openSession a.settings (outside a fresh) realms.toSwitch accountInfo
    .ok { session with userId := row.iAccount }

def validateOtp (stored : Option StoredOtp) (code : String) : Except Failure SessionInfo :=
  (verifyCode a realms stored code >>= codeSession a realms fresh).mapError
    (replaceFault ["Server.Session.alert_You_must_change_password"] passwordChangeRequiredError)

/-! ## Custom methods -/

/-- The title of a page, which is translated, is left out. -/
structure CustomPage where
  url : String
  token : Option String
  expiresIn : Int
deriving DecidableEq, Repr

structure PageToken where
  accessToken : String
  refreshToken : Option String
  expiresIn : Int
deriving DecidableEq, Repr

def customPages (userId : String) : Except Failure (List CustomPage) := do
  let data ← emulateAccountLogin realms fresh userId
  match given a.selfConfigPortalUrl with
  | none => .ok []
  | some url =>
    let token ← lookup (data.accessToken.index "access_token")
    match ← lookup (data.expiresIn.index "expires_in") with
    | none => .error (.raised .typeError)
    | some expiresIn => .ok [⟨url ++ "?token=" ++ token.getD "None", token, expiresIn⟩]

def externalPageAccessToken (userId : String) : Except Failure PageToken := do
  let data ← emulateAccountLogin realms fresh userId
  match ← lookup (data.accessToken.index "access_token") with
  | none => .error (.raised (.validationError "access_token"))
  | some accessToken =>
    let refreshToken ← lookup (data.refreshToken.index "refresh_token")
    match ← lookup (data.expiresIn.index "expires_in") with
    | none => .error (.raised .typeError)
    | some expiresIn => .ok ⟨accessToken, refreshToken, expiresIn⟩

inductive Response
  | session (session : SessionInfo)
  | otpCreated (response : OtpCreateResponse)
  | closed (result : Bool)
  | signedUp (session : SignedUp)
  | pages (pages : List CustomPage)
  | pageToken (token : PageToken)
deriving DecidableEq, Repr

def privateAttribute (methodName : String) : String :=
  "_" ++ String.ofList (methodName.toList.map fun c => if c = '-' then '_' else c)

def customMethodPrivate (userId methodName : String) : Except Failure Response :=
  let attr := privateAttribute methodName
  if attr = "_custom_pages" then do .ok (.pages (← customPages a realms fresh userId))
  else if attr = "_external_page_access_token" then do .ok (.pageToken (← externalPageAccessToken realms fresh userId))
  else .error (if a.otherAttribute attr then .raised .typeError else .webTrit (methodNotFoundError methodName))

/-! ## Requests -/

inductive Request
  | createSession (login : String) (password : Option String)
  | updateSession (refreshToken : String)
  | deleteSession (accessToken : String)
  | createSessionOtp (userRef : String)
  | verifySessionOtp (otpId code : String)
  | signup (accessToken refreshToken : Option String)
  | customMethod (accessToken methodName : String)
deriving DecidableEq, Repr

/-- The check of a capability in the route. -/
def Adapter.Allows : Request → Prop
  | .createSession _ _ => a.passwordForced = true ∨ .passwordSignin ∈ a.supported
  | .createSessionOtp _ => .otpSignin ∈ a.supported
  | .verifySessionOtp _ _ => .otpSignin ∈ a.supported ∨ .signup ∈ a.supported
  | .signup _ _ => .signup ∈ a.supported
  | .customMethod _ _ => .customMethods ∈ a.supported
  | .updateSession _ | .deleteSession _ => True

instance (request : Request) : Decidable (a.Allows request) := by
  cases request <;> unfold Adapter.Allows <;> infer_instance

abbrev Otps := KeyValue String StoredOtp

/-- What a request for a code leaves behind. -/
def recordStored (otps : Otps) : OtpAction → Otps
  | .createOtp _ => otps
  | .store row => match fresh.store row with
    | .ok () => otps.set row.otpId row
    | .error _ => otps

/-- What the adapter returns, with the records that it leaves. -/
def handle (otps : Otps) : Request → Except Failure Response × Otps
  | .createSession login password =>
    (do .ok (.session (← authenticate a.settings (outside a fresh) realms.toSwitch login password)), otps)
  | .updateSession refreshToken => (do .ok (.session (← refreshSession a realms fresh refreshToken)), otps)
  | .deleteSession accessToken => (do .ok (.closed (← closeSession realms accessToken)), otps)
  | .createSessionOtp userRef =>
    let (result, actions) := generateOtp a.settings (outside a fresh) realms.toSwitch userRef []
    (do .ok (.otpCreated (← result)), actions.foldl (recordStored fresh) otps)
  | .verifySessionOtp otpId code =>
    (do .ok (.session (← validateOtp a realms fresh (otps.get otpId) code)),
      match verifyCode a realms (otps.get otpId) code with
      | .ok _ => otps.erase otpId
      | .error _ => otps)
  | .signup accessToken refreshToken => (do .ok (.signedUp (← signup a realms fresh accessToken refreshToken)), otps)
  | .customMethod accessToken methodName =>
    (do
      let session ← validateSession a realms fresh accessToken
      customMethodPrivate a realms fresh session.userId methodName, otps)

/-! ## Runs -/

/-- The tokens in a response. -/
def Response.tokens : Response → List String
  | .session s => s.accessToken :: s.refreshToken.toList
  | .signedUp s => [s.accessToken, s.refreshToken]
  | .pages l => l.filterMap (·.token)
  | .pageToken t => t.accessToken :: t.refreshToken.toList
  | .otpCreated _ | .closed _ => []

def givenTokens : Except Failure Response → List String
  | .ok response => response.tokens
  | .error _ => []

inductive Event
  | request (byClient : Bool) (request : Request) (realms : Realms) (fresh : Fresh)
  | dropped (otpId : String)

/-- The records, and the tokens that the one client has been given. -/
structure State where
  otps : Otps := KeyValue.empty
  known : List String := []

/-- A request that its route refuses changes nothing. -/
def step (s : State) : Event → Option State
  | .request byClient request realms fresh =>
    if a.Allows request then
      let (result, otps) := handle a realms fresh s.otps request
      some { otps, known := if byClient then s.known ++ givenTokens result else s.known }
    else some s
  | .dropped otpId => some { s with otps := s.otps.erase otpId }

end PortaPhone.SignIn.AccountSessions
