import PortaPhone.Lib.Fallible
import PortaPhone.Lib.Requests
import PortaPhone.SignIn.Account
/-!
# Signing in by an alias (`portaswitch/adapter.py`)

| here | there |
| --- | --- |
| `resolveMaster`             | the alias step of `authenticate` (`:607`) and of `generate_otp` (`:674`) |
| `credentialsAccount`, `authenticate` | `authenticate` (`:583`) up to the credentials check, and the whole of it |
| `otpAccount`, `generateOtp` | `generate_otp` (`:642`) up to `create_otp`, and the whole of it |
| `OtpAction`                 | what `generate_otp` sends and stores, beside its lookups |
| `authenticateFault`, `otpFault` | their `except` clauses |

An alias is let in as its master account. `sign_in_acts_on` says so of both ways to sign in: the account that a
session is opened or a code requested and stored for, the password that counts and the add-ons that are asked for are
those of `ActsOn`.
-/

namespace PortaPhone.SignIn

open Contacts (Attr Raised)
open Requests

/-- The switch with its account database, in which the master of an account is no alias. -/
structure Switch extends AdminApi where
  accountApi : AccountApi
  master_not_alias : ∀ {q row masterId master}, getAccountInfo q = .ok (some row) → masterOf row = some masterId →
    getAccountInfo (.iAccount masterId) = .ok (some master) → masterOf master = none

structure SessionInfo where
  userId : Int
  accessToken : String
  refreshToken : Option String
  expiresIn : Int
  limits : DeviceLimits
deriving DecidableEq, Repr

/-- What is stored of a code: its id, the account, the user reference and the encrypted admin session. -/
structure StoredOtp where
  otpId : String
  iAccount : Int
  userRef : String
  bssToken : Option String
deriving DecidableEq, Repr

structure OtpCreateResponse where
  otpId : String
  deliveryFrom : Option String
deriving DecidableEq, Repr

/-- What a request takes from outside: the new ids, the cipher and the OTP storage. -/
structure Outside where
  uuid : String
  otpId : String
  encryptSecret : String → String
  store : StoredOtp → Except Failure Unit

section Adapter

variable (settings : Settings) (outside : Outside) (switch : Switch)

/-! ## The adapter -/

/-- The account that a found row stands for. -/
def resolveMaster (accountInfo : AccountInfo) : Except Failure (Option AccountInfo) :=
  match masterOf accountInfo with
  | some masterId => switch.getAccountInfo (.iAccount masterId)
  | none => .ok (some accountInfo)

def loginQuery (login : String) : InfoQuery := if settings.sipCredentials then .id login else .login login

/-- `account_info[password_attr]`. -/
def passwordOf (accountInfo : AccountInfo) : Except Raised (Option String) :=
  if settings.sipCredentials then accountInfo.h323Password.index "h323_password"
  else accountInfo.password.index "password"

def checkPassword (accountInfo : AccountInfo) (password : Option String) : Except Failure AccountInfo := do
  let expected ← lookup (passwordOf settings accountInfo)
  if expected ≠ password then .error (.webTrit incorrectCredentialsError) else .ok accountInfo

/-- The account that the credentials are for. -/
def credentialsAccount (login : String) (password : Option String) : Except Failure AccountInfo := do
  match ← switch.getAccountInfo (loginQuery settings login) with
  | none => .error (.webTrit incorrectCredentialsError)
  | some named => match ← resolveMaster switch named with
    | none => .error (.webTrit incorrectCredentialsError)
    | some accountInfo => checkPassword settings accountInfo password

def checkGate (accountInfo : AccountInfo) : Except Failure Unit :=
  if settings.allowedAddons = [] then .ok () else checkAllowedAddons settings accountInfo

/-- `SessionInfo(…)`; pydantic and `timedelta` refuse the null values. -/
def sessionInfo (accountInfo : AccountInfo) (data : SessionData) : Except Failure SessionInfo := do
  match ← lookup (data.accessToken.index "access_token") with
  | none => .error (.raised (.validationError "access_token"))
  | some accessToken =>
    let refreshToken ← lookup (data.refreshToken.index "refresh_token")
    match ← lookup (data.expiresIn.index "expires_in") with
    | none => .error (.raised .typeError)
    | some expiresIn =>
      .ok ⟨accountInfo.iAccount, accessToken, refreshToken, expiresIn,
        readDeviceLimits settings switch.toAdminApi accountInfo⟩

def openSession (accountInfo : AccountInfo) : Except Failure SessionInfo := do
  sessionInfo settings switch accountInfo
    (← loginAccount switch.toAdminApi switch.accountApi outside.uuid accountInfo)

def authenticationFaults : List String :=
  ["Server.Session.auth_failed", "Server.Session.cannot_login_brute_force_activity",
   "Client.Session.check_auth.failed_to_process_access_token"]

/-- An error without a fault code is raised again by `extract_fault_code`. -/
def authenticateFault : Failure → Failure
  | .webTrit error =>
    if error.faultCode.any (· ∈ authenticationFaults) then .webTrit userAuthenticationError else .webTrit error
  | .raised error => .raised error

def authenticate (login : String) (password : Option String) : Except Failure SessionInfo :=
  (do
    let accountInfo ← credentialsAccount settings switch login password
    checkGate settings accountInfo
    openSession settings outside switch accountInfo).mapError authenticateFault

/-- By its id, and if none has it, by its email. -/
def findOtpAccount (userId : String) : Except Failure (Option AccountInfo) := do
  match ← switch.getAccountInfo (.id userId) with
  | some accountInfo => .ok (some accountInfo)
  | none => findAccountByEmail switch.toAdminApi userId

/-- The account that a code is to be created for. -/
def otpAccount (userId : String) : Except Failure AccountInfo := do
  match ← findOtpAccount switch userId with
  | none => .error (.webTrit (notFoundUserError userId))
  | some named => match ← resolveMaster switch named with
    | none => .error (.webTrit (notFoundUserError userId))
    | some accountInfo => do
      checkGate settings accountInfo
      .ok accountInfo

/-- The request for a code, and the record of it. -/
inductive OtpAction
  | createOtp (iAccount : Int)
  | store (row : StoredOtp)
deriving DecidableEq, Repr

def createOtp (iAccount : Int) : Sends OtpAction Failure (Attr Int) :=
  Sends.send (.createOtp iAccount) fun _ => switch.createOtp iAccount

/-- The admin session that created the code, encrypted. -/
def Outside.storedToken (bssToken : Option String) : Option String :=
  (bssToken.filter (· ≠ "")).map outside.encryptSecret

def storeOtp (row : StoredOtp) : Sends OtpAction Failure Unit := Sends.send (.store row) fun _ => outside.store row

/-- From the request of `create_otp` on. -/
def otpResponse (userId : String) (accountInfo : AccountInfo) : Sends OtpAction Failure OtpCreateResponse := do
  let answer ← createOtp switch accountInfo.iAccount
  let success ← Sends.lift (lookup (answer.index "success"))
  if success = none ∨ success = some 0 then Sends.raise (.webTrit externalApiIssueError)
  else do
    storeOtp outside
      ⟨outside.otpId, accountInfo.iAccount, userId, outside.storedToken switch.currentAccessToken⟩
    pure ⟨outside.otpId, switch.envEmail⟩

def otpFault : Failure → Failure
  | .webTrit error =>
    if error.faultCode = some "Server.AccessControl.empty_rec_and_bcc" then .webTrit deliveryChannelUnspecifiedError
    else .webTrit error
  | .raised error => .raised error

def generateOtp (userId : String) : Sends OtpAction Failure OtpCreateResponse :=
  Sends.mapError otpFault do
    let accountInfo ← Sends.lift (otpAccount settings switch userId)
    otpResponse outside switch userId accountInfo

/-! ## The account acted on -/

/-- The row that the identifier of a sign-in with a password names. -/
def Names (login : String) (named : AccountInfo) : Prop :=
  switch.getAccountInfo (loginQuery settings login) = .ok (some named)

/-- The row that the identifier of a sign-in with a code names: by its id, and if none has it, by its email. -/
def OtpNames (userId : String) (named : AccountInfo) : Prop :=
  switch.getAccountInfo (.id userId) = .ok (some named) ∨
    switch.getAccountInfo (.id userId) = .ok none ∧
      findAccountByEmail switch.toAdminApi userId = .ok (some named)

/-- An alias is not a beneficiary and has a master account. -/
def IsAlias (accountInfo : AccountInfo) : Prop :=
  isBeneficiary accountInfo = false ∧ ∃ masterId, masterId ≠ 0 ∧ accountInfo.iMasterAccount = .val masterId

/-- The master account of an alias, and otherwise the named account itself. -/
def ActsOn (named acted : AccountInfo) : Prop :=
  (IsAlias named ∧ ∃ masterId, named.iMasterAccount = .val masterId ∧
    switch.getAccountInfo (.iAccount masterId) = .ok (some acted)) ∨ (¬ IsAlias named ∧ acted = named)

/-- The add-ons of the account meet the allowed ones. -/
def MeetsAddons (accountInfo : AccountInfo) : Prop :=
  ∃ addons, accountInfo.assignedAddons = .val addons ∧ ∃ name ∈ settings.allowedAddons, .val name ∈ addons

/-- With no allowed add-ons set, every account is let in. -/
def LetIn (accountInfo : AccountInfo) : Prop := settings.allowedAddons = [] ∨ MeetsAddons settings accountInfo

/-- The switch has created a code for the account. -/
def Created (i : Int) : Prop := ∃ success, switch.createOtp i = .ok (.val success) ∧ success ≠ 0

/-- The account realm has opened the session for the login of the account. -/
def OpenedFor (accountInfo : AccountInfo) (session : SessionInfo) : Prop :=
  ∃ login password token data, accountInfo.login.index "login" = .ok login ∧
    switch.accountApi login password token = .ok data ∧ data.accessToken = .val session.accessToken

variable {settings outside switch}

theorem masterOf_eq_some {accountInfo : AccountInfo} {masterId : Int} :
    masterOf accountInfo = some masterId ↔
      IsAlias accountInfo ∧ accountInfo.iMasterAccount = .val masterId := by
  unfold masterOf IsAlias Attr.number?
  cases hb : isBeneficiary accountInfo <;> cases hm : accountInfo.iMasterAccount <;> simp [Attr.get?, and_comm]
  rintro rfl
  rfl

theorem masterOf_eq_none {accountInfo : AccountInfo} : masterOf accountInfo = none ↔ ¬ IsAlias accountInfo := by
  constructor
  · intro hnone halias
    obtain ⟨-, masterId, -, hmaster⟩ := id halias
    rw [masterOf_eq_some.2 ⟨halias, hmaster⟩] at hnone
    cases hnone
  · intro halias
    cases h : masterOf accountInfo with
    | none => rfl
    | some masterId => exact absurd (masterOf_eq_some.1 h).1 halias

theorem resolveMaster_ok {named acted : AccountInfo} :
    resolveMaster switch named = .ok (some acted) ↔ ActsOn switch named acted := by
  unfold resolveMaster ActsOn
  cases h : masterOf named with
  | none =>
    have halias := masterOf_eq_none.1 h
    simp [halias, eq_comm]
  | some masterId =>
    obtain ⟨halias, hmaster⟩ := masterOf_eq_some.1 h
    simp [halias, hmaster]

theorem mem_addonNames {addons : List (Attr String)} {name : String} :
    name ∈ addonNames addons ↔ .val name ∈ addons := by
  rw [addonNames, List.mem_filterMap]
  constructor
  · rintro ⟨addon, hmem, hname⟩
    cases addon with
    | val a =>
      obtain rfl : a = name := Option.some.inj hname
      exact hmem
    | _ => cases hname
  · intro hmem
    exact ⟨_, hmem, rfl⟩

theorem checkAllowedAddons_ok {accountInfo : AccountInfo} :
    checkAllowedAddons settings accountInfo = .ok () ↔ MeetsAddons settings accountInfo := by
  unfold checkAllowedAddons MeetsAddons
  cases accountInfo.assignedAddons with
  | absent => simp [lookup, Attr.rows, Except.mapError, addonNames, bind, Except.bind]
  | null => simp [lookup, Attr.rows, Except.mapError, bind, Except.bind]
  | val addons => simp [lookup, Attr.rows, Except.mapError, bind, Except.bind, mem_addonNames]

theorem checkGate_ok {accountInfo : AccountInfo} :
    checkGate settings accountInfo = .ok () ↔ LetIn settings accountInfo := by
  unfold checkGate LetIn
  split
  · next hnone => simp [hnone]
  · next hsome => simp [hsome, checkAllowedAddons_ok]

theorem checkPassword_ok {accountInfo acted : AccountInfo} {password : Option String} :
    checkPassword settings accountInfo password = .ok acted ↔
      acted = accountInfo ∧ passwordOf settings accountInfo = .ok password := by
  simp only [checkPassword, Fallible.bind_ok, lookup_ok]
  constructor
  · rintro ⟨expected, hexpected, h⟩
    split at h
    · cases h
    · next hne =>
      cases h
      exact ⟨rfl, by rw [hexpected, not_not.1 hne]⟩
  · rintro ⟨rfl, hpassword⟩
    exact ⟨password, hpassword, by simp⟩

theorem credentialsAccount_ok {login : String} {password : Option String} {acted : AccountInfo} :
    credentialsAccount settings switch login password = .ok acted ↔
      ∃ named, Names settings switch login named ∧ ActsOn switch named acted ∧
        passwordOf settings acted = .ok password := by
  simp only [credentialsAccount, Fallible.bind_ok, Names, ← resolveMaster_ok]
  constructor
  · rintro ⟨found, hfound, h⟩
    cases found with
    | none => cases h
    | some named =>
      obtain ⟨resolved, hresolved, h⟩ := Fallible.bind_ok.1 h
      cases resolved with
      | none => cases h
      | some accountInfo =>
        obtain ⟨rfl, hpassword⟩ := checkPassword_ok.1 h
        exact ⟨named, hfound, hresolved, hpassword⟩
  · rintro ⟨named, hnamed, hacted, hpassword⟩
    exact ⟨some named, hnamed, Fallible.bind_ok.2 ⟨some acted, hacted, checkPassword_ok.2 ⟨rfl, hpassword⟩⟩⟩

/-- The outcome of the lookups: what is left to do is to check the password of the account acted on. -/
theorem credentialsAccount_eq {login : String} {named acted : AccountInfo} (hnamed : Names settings switch login named)
    (hacted : ActsOn switch named acted) (password : Option String) :
    credentialsAccount settings switch login password = checkPassword settings acted password := by
  unfold credentialsAccount
  rw [hnamed]
  show (resolveMaster switch named >>= _) = _
  rw [resolveMaster_ok.2 hacted]
  rfl

theorem authenticate_ok {login : String} {password : Option String} {session : SessionInfo} :
    authenticate settings outside switch login password = .ok session ↔
      ∃ named acted, Names settings switch login named ∧ ActsOn switch named acted ∧
        passwordOf settings acted = .ok password ∧ LetIn settings acted ∧
        openSession settings outside switch acted = .ok session := by
  simp only [authenticate, Fallible.mapError_ok, Fallible.bind_ok, credentialsAccount_ok]
  constructor
  · rintro ⟨acted, ⟨named, hnamed, hacted, hpassword⟩, ⟨⟩, hgate, hsession⟩
    exact ⟨named, acted, hnamed, hacted, hpassword, checkGate_ok.1 hgate, hsession⟩
  · rintro ⟨named, acted, hnamed, hacted, hpassword, hgate, hsession⟩
    exact ⟨acted, ⟨named, hnamed, hacted, hpassword⟩, (), checkGate_ok.2 hgate, hsession⟩

theorem loginAccount_login {api : AdminApi} {accountApi : AccountApi} {uuid : String} {accountInfo : AccountInfo}
    {data : SessionData} (h : loginAccount api accountApi uuid accountInfo = .ok data) :
    ∃ login password token, accountInfo.login.index "login" = .ok login ∧
      accountApi login password token = .ok data := by
  obtain ⟨version, -, h⟩ := Fallible.bind_ok.1 h
  obtain ⟨login, hlogin, h⟩ := Fallible.bind_ok.1 h
  refine ⟨login, ?_⟩
  split at h
  · exact ⟨_, _, lookup_ok.1 hlogin, h⟩
  · obtain ⟨password, -, h⟩ := Fallible.bind_ok.1 h
    exact ⟨_, _, lookup_ok.1 hlogin, h⟩

theorem sessionInfo_ok {acted : AccountInfo} {data : SessionData} {session : SessionInfo}
    (h : sessionInfo settings switch acted data = .ok session) :
    session.userId = acted.iAccount ∧ data.accessToken = .val session.accessToken ∧
      lookup (data.refreshToken.index "refresh_token") = .ok session.refreshToken := by
  obtain ⟨accessToken, haccess, h⟩ := Fallible.bind_ok.1 h
  cases accessToken with
  | none => cases h
  | some accessToken =>
    obtain ⟨refreshToken, hrefresh, h⟩ := Fallible.bind_ok.1 h
    obtain ⟨expiresIn, -, h⟩ := Fallible.bind_ok.1 h
    cases expiresIn with
    | none => cases h
    | some expiresIn =>
      cases h
      refine ⟨rfl, ?_, hrefresh⟩
      cases htoken : data.accessToken with
      | absent | null =>
        rw [htoken] at haccess
        cases haccess
      | val token =>
        rw [htoken] at haccess
        cases haccess
        rfl

theorem openedFor_of_openSession {acted : AccountInfo} {session : SessionInfo}
    (h : openSession settings outside switch acted = .ok session) :
    session.userId = acted.iAccount ∧ OpenedFor switch acted session := by
  obtain ⟨data, hlogin, hdata⟩ := Fallible.bind_ok.1 h
  obtain ⟨huser, haccess, -⟩ := sessionInfo_ok hdata
  obtain ⟨login, password, token, hname, hdata⟩ := loginAccount_login hlogin
  exact ⟨huser, login, password, token, data, hname, hdata, haccess⟩

theorem findOtpAccount_ok {userId : String} {named : AccountInfo} :
    findOtpAccount switch userId = .ok (some named) ↔ OtpNames switch userId named := by
  simp only [findOtpAccount, Fallible.bind_ok, OtpNames]
  constructor
  · rintro ⟨byId, hbyId, h⟩
    cases byId with
    | none => exact Or.inr ⟨hbyId, h⟩
    | some accountInfo =>
      cases h
      exact Or.inl hbyId
  · rintro (hbyId | ⟨hnone, hbyEmail⟩)
    · exact ⟨some named, hbyId, rfl⟩
    · exact ⟨none, hnone, hbyEmail⟩

theorem otpAccount_ok {userId : String} {acted : AccountInfo} :
    otpAccount settings switch userId = .ok acted ↔
      ∃ named, OtpNames switch userId named ∧ ActsOn switch named acted ∧ LetIn settings acted := by
  simp only [otpAccount, Fallible.bind_ok, ← findOtpAccount_ok, ← resolveMaster_ok, ← checkGate_ok]
  constructor
  · rintro ⟨found, hfound, h⟩
    cases found with
    | none => cases h
    | some named =>
      obtain ⟨resolved, hresolved, h⟩ := Fallible.bind_ok.1 h
      cases resolved with
      | none => cases h
      | some accountInfo =>
        obtain ⟨⟨⟩, hgate, h⟩ := Fallible.bind_ok.1 h
        cases h
        exact ⟨named, hfound, hresolved, hgate⟩
  · rintro ⟨named, hnamed, hacted, hgate⟩
    refine ⟨some named, hnamed, Fallible.bind_ok.2 ⟨some acted, hacted, ?_⟩⟩
    exact Fallible.bind_ok.2 ⟨(), hgate, rfl⟩

/-! ## What a request for a code does -/

theorem generateOtp_refused {userId : String} {e : Failure} (h : otpAccount settings switch userId = .error e) :
    generateOtp settings outside switch userId [] = (.error (otpFault e), []) := by
  rw [generateOtp, run_mapError, h, run_bind_error (run_lift _ _)]
  rfl

theorem generateOtp_run {userId : String} {acted : AccountInfo}
    (h : otpAccount settings switch userId = .ok acted) : generateOtp settings outside switch userId [] =
      ((otpResponse outside switch userId acted []).1.mapError otpFault,
        (otpResponse outside switch userId acted []).2) := by
  rw [generateOtp, run_mapError, h, run_bind_ok (run_lift _ _)]

/-- A code that is created is stored. -/
theorem otpResponse_created {userId : String} {acted : AccountInfo} (hcreated : Created switch acted.iAccount)
    {row : StoredOtp}
    (hrow : row = ⟨outside.otpId, acted.iAccount, userId, outside.storedToken switch.currentAccessToken⟩) :
    otpResponse outside switch userId acted [] =
      ((outside.store row).map fun _ => ⟨outside.otpId, switch.envEmail⟩,
        [.createOtp acted.iAccount, .store row]) := by
  obtain ⟨success, hanswer, hsuccess⟩ := hcreated
  have hsent : createOtp switch acted.iAccount [] = (.ok (.val success), [.createOtp acted.iAccount]) := by
    rw [createOtp, run_send, hanswer]
    rfl
  have hstored : storeOtp outside row [.createOtp acted.iAccount] =
      (outside.store row, [.createOtp acted.iAccount, .store row]) := rfl
  have hvalue : (Sends.lift (lookup ((Attr.val success).index "success")) : Sends OtpAction Failure _)
      [.createOtp acted.iAccount] = (.ok (some success), [.createOtp acted.iAccount]) := rfl
  rw [otpResponse, run_bind_ok hsent, run_bind_ok hvalue, if_neg (by simp [hsuccess]), ← hrow]
  cases hstore : outside.store row with
  | error e =>
    rw [run_bind_error (by rw [hstored, hstore])]
    rfl
  | ok done =>
    rw [run_bind_ok (by rw [hstored, hstore])]
    rfl

/-- Without a code there is no record. -/
theorem otpResponse_not_created {userId : String} {acted : AccountInfo} (hcreated : ¬ Created switch acted.iAccount) :
    ∃ e, otpResponse outside switch userId acted [] = (.error e, [.createOtp acted.iAccount]) := by
  have hsent : createOtp switch acted.iAccount [] =
      (switch.createOtp acted.iAccount, [.createOtp acted.iAccount]) := rfl
  rw [otpResponse]
  cases hanswer : switch.createOtp acted.iAccount with
  | error e => exact ⟨e, run_bind_error (by rw [hsent, hanswer])⟩
  | ok answer =>
    rw [run_bind_ok (by rw [hsent, hanswer])]
    cases answer with
    | absent => exact ⟨_, rfl⟩
    | null => exact ⟨_, rfl⟩
    | val success =>
      obtain rfl : success = 0 := by
        by_contra hsuccess
        exact hcreated ⟨success, hanswer, hsuccess⟩
      exact ⟨_, rfl⟩

theorem mem_createOtp {userId : String} {i : Int} :
    OtpAction.createOtp i ∈ (generateOtp settings outside switch userId []).2 ↔
      ∃ acted, otpAccount settings switch userId = .ok acted ∧ i = acted.iAccount := by
  cases h : otpAccount settings switch userId with
  | error e => simp [generateOtp_refused h]
  | ok acted =>
    rw [generateOtp_run h]
    by_cases hcreated : Created switch acted.iAccount
    · rw [otpResponse_created hcreated rfl]
      simp
    · obtain ⟨e, hrun⟩ := @otpResponse_not_created outside _ userId _ hcreated
      rw [hrun]
      simp

theorem mem_storeOtp {userId : String} {row : StoredOtp} :
    OtpAction.store row ∈ (generateOtp settings outside switch userId []).2 ↔
      ∃ acted, otpAccount settings switch userId = .ok acted ∧ Created switch acted.iAccount ∧
        row = ⟨outside.otpId, acted.iAccount, userId, outside.storedToken switch.currentAccessToken⟩ := by
  cases h : otpAccount settings switch userId with
  | error e => simp [generateOtp_refused h]
  | ok acted =>
    rw [generateOtp_run h]
    by_cases hcreated : Created switch acted.iAccount
    · rw [otpResponse_created hcreated rfl]
      simp [hcreated]
    · obtain ⟨e, hrun⟩ := @otpResponse_not_created outside _ userId _ hcreated
      rw [hrun]
      simp [hcreated]

theorem generateOtp_ok {userId : String} {response : OtpCreateResponse} :
    (generateOtp settings outside switch userId []).1 = .ok response ↔
      ∃ acted, otpAccount settings switch userId = .ok acted ∧ Created switch acted.iAccount ∧
        outside.store ⟨outside.otpId, acted.iAccount, userId, outside.storedToken switch.currentAccessToken⟩ = .ok () ∧
        response = ⟨outside.otpId, switch.envEmail⟩ := by
  cases h : otpAccount settings switch userId with
  | error e => simp [generateOtp_refused h]
  | ok acted =>
    rw [generateOtp_run h, Fallible.mapError_ok]
    by_cases hcreated : Created switch acted.iAccount
    · rw [otpResponse_created hcreated rfl]
      cases hstore : outside.store _ with
      | error e => simp [hstore, Except.map]
      | ok done => simp [hcreated, hstore, Except.map, eq_comm]
    · obtain ⟨e, hrun⟩ := @otpResponse_not_created outside _ userId _ hcreated
      rw [hrun]
      simp [hcreated]

/-- The master signs in as itself. -/
theorem actsOn_master {q : InfoQuery} {named master : AccountInfo}
    (hnamed : switch.getAccountInfo q = .ok (some named)) (halias : IsAlias named)
    (hacted : ActsOn switch named master) : ActsOn switch master master := by
  rcases hacted with ⟨-, masterId, hmasterId, hmaster⟩ | ⟨hnot, -⟩
  · have hnone := switch.master_not_alias hnamed (masterOf_eq_some.2 ⟨halias, hmasterId⟩) hmaster
    exact Or.inr ⟨masterOf_eq_none.1 hnone, rfl⟩
  · exact absurd halias hnot

theorem authenticate_eq_of_actsOn {login login' : String} {named named' acted : AccountInfo}
    (hnamed : Names settings switch login named) (hacted : ActsOn switch named acted)
    (hnamed' : Names settings switch login' named') (hacted' : ActsOn switch named' acted)
    (password : Option String) :
    authenticate settings outside switch login password = authenticate settings outside switch login' password := by
  unfold authenticate
  rw [credentialsAccount_eq hnamed hacted, credentialsAccount_eq hnamed' hacted']

/-- A sign-in, with a password or with a code, is one of the account that the identifier stands for: the master account
of an alias and otherwise the named account. Its password is compared, its add-ons are asked for if any are, and the
session is opened under its login, or the code requested and stored for it. By an alias one signs in as by an
identifier of its master. -/
theorem sign_in_acts_on (settings : Settings) (outside : Outside) (switch : Switch) :
    (∀ login password session, authenticate settings outside switch login password = .ok session ↔
      ∃ named acted, Names settings switch login named ∧ ActsOn switch named acted ∧
        passwordOf settings acted = .ok password ∧ LetIn settings acted ∧
        openSession settings outside switch acted = .ok session ∧ session.userId = acted.iAccount ∧
        OpenedFor switch acted session) ∧
    (∀ userId i, OtpAction.createOtp i ∈ (generateOtp settings outside switch userId []).2 ↔
      ∃ named acted, OtpNames switch userId named ∧ ActsOn switch named acted ∧ LetIn settings acted ∧
        i = acted.iAccount) ∧
    (∀ userId row, OtpAction.store row ∈ (generateOtp settings outside switch userId []).2 ↔
      ∃ named acted, OtpNames switch userId named ∧ ActsOn switch named acted ∧ LetIn settings acted ∧
        Created switch acted.iAccount ∧
        row = ⟨outside.otpId, acted.iAccount, userId, outside.storedToken switch.currentAccessToken⟩) ∧
    (∀ userId response, (generateOtp settings outside switch userId []).1 = .ok response ↔
      ∃ named acted, OtpNames switch userId named ∧ ActsOn switch named acted ∧ LetIn settings acted ∧
        Created switch acted.iAccount ∧
        outside.store ⟨outside.otpId, acted.iAccount, userId, outside.storedToken switch.currentAccessToken⟩ = .ok () ∧
        response = ⟨outside.otpId, switch.envEmail⟩) ∧
    (∀ login masterLogin named master password, Names settings switch login named → IsAlias named →
      ActsOn switch named master → Names settings switch masterLogin master →
        authenticate settings outside switch login password =
          authenticate settings outside switch masterLogin password) := by
  refine ⟨?_, ?_, ?_, ?_, ?_⟩
  · intro login password session
    rw [authenticate_ok]
    constructor
    · rintro ⟨named, acted, hnamed, hacted, hpassword, hgate, hsession⟩
      exact ⟨named, acted, hnamed, hacted, hpassword, hgate, hsession, openedFor_of_openSession hsession⟩
    · rintro ⟨named, acted, hnamed, hacted, hpassword, hgate, hsession, -⟩
      exact ⟨named, acted, hnamed, hacted, hpassword, hgate, hsession⟩
  · intro userId i
    simp only [mem_createOtp, otpAccount_ok]
    constructor
    · rintro ⟨acted, ⟨named, hnamed, hacted, hgate⟩, hi⟩
      exact ⟨named, acted, hnamed, hacted, hgate, hi⟩
    · rintro ⟨named, acted, hnamed, hacted, hgate, hi⟩
      exact ⟨acted, ⟨named, hnamed, hacted, hgate⟩, hi⟩
  · intro userId row
    simp only [mem_storeOtp, otpAccount_ok]
    constructor
    · rintro ⟨acted, ⟨named, hnamed, hacted, hgate⟩, hcreated, hrow⟩
      exact ⟨named, acted, hnamed, hacted, hgate, hcreated, hrow⟩
    · rintro ⟨named, acted, hnamed, hacted, hgate, hcreated, hrow⟩
      exact ⟨acted, ⟨named, hnamed, hacted, hgate⟩, hcreated, hrow⟩
  · intro userId response
    simp only [generateOtp_ok, otpAccount_ok]
    constructor
    · rintro ⟨acted, ⟨named, hnamed, hacted, hgate⟩, hcreated, hstored, hresponse⟩
      exact ⟨named, acted, hnamed, hacted, hgate, hcreated, hstored, hresponse⟩
    · rintro ⟨named, acted, hnamed, hacted, hgate, hcreated, hstored, hresponse⟩
      exact ⟨acted, ⟨named, hnamed, hacted, hgate⟩, hcreated, hstored, hresponse⟩
  · intro login masterLogin named master password hnamed halias hacted hmaster
    exact authenticate_eq_of_actsOn hnamed hacted hmaster (actsOn_master hnamed halias hacted) password

end Adapter

/-! ## A database of accounts -/

/-- The accounts of the switch; none is the master of another as an alias and an alias itself. -/
structure Database where
  accounts : List AccountInfo
  master_not_alias : ∀ row ∈ accounts, ∀ master ∈ accounts,
    masterOf row = some master.iAccount → masterOf master = none

def InfoQuery.answeredBy : InfoQuery → AccountInfo → Bool
  | .id ref, row => row.id = .val ref
  | .login ref, row => row.login = .val ref
  | .iAccount ref, row => row.iAccount = ref

def Database.getAccountInfo (db : Database) (q : InfoQuery) : Option AccountInfo := db.accounts.find? q.answeredBy

/-- A switch that answers the lookups from the database. -/
def Database.switch (db : Database) (api : AdminApi) (accountApi : AccountApi) : Switch where
  toAdminApi := { api with getAccountInfo := fun q => .ok (db.getAccountInfo q) }
  accountApi := accountApi
  master_not_alias := by
    intro q row masterId master hrow hid hmaster
    simp only [Except.ok.injEq, Database.getAccountInfo] at hrow hmaster
    obtain rfl : master.iAccount = masterId := by simpa [InfoQuery.answeredBy] using List.find?_some hmaster
    exact db.master_not_alias row (List.mem_of_find?_eq_some hrow) master (List.mem_of_find?_eq_some hmaster) hid

def officeMaster : AccountInfo where
  iAccount := 102398
  id := .val "555020"
  login := .val "office"
  password := .val "secret"
  assignedAddons := .val [.val "WebTrit Mobile"]

def officeAlias : AccountInfo where
  iAccount := 102399
  id := .val "555021"
  login := .val "office2"
  iMasterAccount := .val 102398

/-- An account and its alias, on a switch that opens every session and creates every code. -/
def officeSwitch : Switch :=
  Database.switch ⟨[officeMaster, officeAlias], by decide⟩
    { getAccountInfo := fun _ => .ok none
      findAccountsByEmail := fun _ _ _ => .ok {}
      fieldLimits := fun _ => .ok (none, none)
      getVersion := .ok [130, 1]
      updateApiToken := fun _ _ => .ok ()
      createOtp := fun _ => .ok (.val 1)
      envEmail := some "pbx@example.com"
      currentAccessToken := none
      sameChar := fun a b => a = b }
    fun _ _ _ => .ok ⟨.val "at", .val "rt", .val 3600⟩

def officeSettings : Settings := { allowedAddons := ["WebTrit Mobile"] }

def officeOutside : Outside := ⟨"2e1f", "otp1", fun s => s, fun _ => .ok ()⟩

theorem sign_in_acts_on_office :
    authenticate officeSettings officeOutside officeSwitch "office2" (some "secret") =
        authenticate officeSettings officeOutside officeSwitch "office" (some "secret") ∧
      authenticate officeSettings officeOutside officeSwitch "office2" (some "secret") =
        .ok ⟨102398, "at", some "rt", 3600, ⟨none, none, none, none, none⟩⟩ ∧
      OtpAction.createOtp 102398 ∈ (generateOtp officeSettings officeOutside officeSwitch "555021" []).2 ∧
      OtpAction.store ⟨"otp1", 102398, "555021", none⟩ ∈
        (generateOtp officeSettings officeOutside officeSwitch "555021" []).2 := by
  have halias : IsAlias officeAlias := ⟨rfl, 102398, by decide, rfl⟩
  have hacted : ActsOn officeSwitch officeAlias officeMaster := Or.inl ⟨halias, 102398, rfl, rfl⟩
  have hgate : LetIn officeSettings officeMaster :=
    Or.inr ⟨[.val "WebTrit Mobile"], rfl, "WebTrit Mobile", by decide, by decide⟩
  have h := sign_in_acts_on officeSettings officeOutside officeSwitch
  refine ⟨?_, ?_, ?_, ?_⟩
  · exact h.2.2.2.2 "office2" "office" officeAlias officeMaster (some "secret") rfl halias hacted rfl
  · refine (h.1 _ _ _).2 ⟨officeAlias, officeMaster, rfl, hacted, rfl, hgate, rfl, rfl, ?_⟩
    exact ⟨some "office", none, some "2e1f", ⟨.val "at", .val "rt", .val 3600⟩, rfl, rfl, rfl⟩
  · exact (h.2.1 _ _).2 ⟨officeAlias, officeMaster, Or.inl rfl, hacted, hgate, rfl⟩
  · exact (h.2.2.1 _ _).2 ⟨officeAlias, officeMaster, Or.inl rfl, hacted, hgate, ⟨1, rfl, by decide⟩, rfl⟩

end PortaPhone.SignIn
