import Mathlib
import PortaPhone.Contacts.Account
/-!
# Account records at sign-in (`portaswitch/adapter.py`)

| here | there |
| --- | --- |
| `AccountInfo`, `masterOf` | an `account_info` dict, the `i_master_account` of a row that `_is_beneficiary` (`:246`) does not exclude |
| `AdminApi`, `AccountApi`  | what the admin and the account realm answer |
| `hasEmail`, `isAddress`   | `_has_email` (`:233`), `_EMAIL_RE` (`:224`) |
| `findAccountByEmail`      | `_find_account_by_email` (`:708`) |
| `checkAllowedAddons`      | `_check_allowed_addons` (`:3100`) |
| `readDeviceLimits`        | `_read_device_limits` (`:2905`); `fieldLimits` is `_cached_field_limits` (`:2978`) |
| `loginAccount`            | `_login_account` (`:3456`), `_get_or_create_api_token` (`:3439`), with `AccountAPI.login` (`api/account.py:98`) |

`AdminApi.sameChar` leaves open how `re.IGNORECASE` compares two characters. A request may fail in any way.
-/

namespace PortaPhone.SignIn

open Contacts (Attr Raised isSpace)

/-! ## Errors (`portaswitch/exceptions.py`) -/

/-- A `WebTritErrorException` with the fault code in its response trace. -/
structure WebTritError where
  statusCode : Nat
  message : String
  code : Option String := none
  faultCode : Option String := none
deriving DecidableEq, Repr

inductive Failure
  | webTrit (error : WebTritError)
  | raised (error : Raised)
deriving DecidableEq, Repr

def userAuthenticationError : WebTritError := ⟨401, "User authentication error", none, none⟩

def incorrectCredentialsError : WebTritError :=
  ⟨401, "User authentication error", some "incorrect_credentials", none⟩

def notFoundUserError (userId : String) : WebTritError :=
  ⟨404, "There is no an account with such id: " ++ userId, none, none⟩

def ambiguousUserError : WebTritError :=
  ⟨422, "More than one account has this email; sign in with the account id", some "ambiguous_user_ref", none⟩

def addonRequiredError : WebTritError :=
  ⟨403, "Access denied: required add-on not assigned", some "addon_required", none⟩

def deliveryChannelUnspecifiedError : WebTritError :=
  ⟨422, "Delivery channel unspecified", some "delivery_channel_unspecified", none⟩

def externalApiIssueError : WebTritError := ⟨500, "Unknown error", some "external_api_issue", none⟩

/-- A key of a record, in a request. -/
def lookup {α : Type} : Except Raised α → Except Failure α := Except.mapError Failure.raised

@[simp] theorem lookup_ok {α : Type} {x : Except Raised α} {a : α} : lookup x = .ok a ↔ x = .ok a :=
  Fallible.mapError_ok

/-! ## Records -/

/-- An entry of `assigned_addons` is its `name`. -/
structure AccountInfo where
  iAccount : Int
  id : Attr String := .absent
  login : Attr String := .absent
  password : Attr String := .absent
  h323Password : Attr String := .absent
  iMasterAccount : Attr Int := .absent
  billingModel : Attr Int := .absent
  iCustomer : Attr Int := .absent
  assignedAddons : Attr (List (Attr String)) := .absent
  apiToken : Attr String := .absent
deriving DecidableEq, Repr

def isBeneficiary (accountInfo : AccountInfo) : Bool :=
  accountInfo.billingModel.get? = some Contacts.billingModelBeneficiary

/-- The master account that a row refers to as an alias. -/
def masterOf (accountInfo : AccountInfo) : Option Int :=
  if isBeneficiary accountInfo then none else accountInfo.iMasterAccount.number?

/-- The parameter of `get_account_info`. -/
inductive InfoQuery
  | id (id : String)
  | login (login : String)
  | iAccount (iAccount : Int)
deriving DecidableEq, Repr

/-- A row of `find_accounts_by_email`. -/
structure EmailRow where
  iAccount : Int
  email : Attr String := .absent
deriving DecidableEq, Repr

structure EmailRows where
  accountList : Attr (List EmailRow) := .absent
  total : Attr Int := .absent
deriving DecidableEq, Repr

/-- Whose custom fields are read. -/
inductive FieldOwner
  | account (iAccount : Int)
  | customer (iCustomer : Option Int)
deriving DecidableEq, Repr

/-- The admin realm. `getVersion` answers with the numbers of the version, `fieldLimits` with the two limits of an
account or of a customer. -/
structure AdminApi where
  getAccountInfo : InfoQuery → Except Failure (Option AccountInfo)
  findAccountsByEmail : String → Nat → Nat → Except Failure EmailRows
  fieldLimits : FieldOwner → Except Failure (Option Nat × Option Nat)
  getVersion : Except Failure (List Nat)
  updateApiToken : Int → String → Except Failure Unit
  createOtp : Int → Except Failure (Attr Int)
  envEmail : Option String
  currentAccessToken : Option String
  sameChar : Char → Char → Bool

/-- The answer of `Session/login` in the account realm. -/
structure SessionData where
  accessToken : Attr String := .absent
  refreshToken : Attr String := .absent
  expiresIn : Attr Int := .absent
deriving DecidableEq, Repr

/-- The parameters of `Session/login`: login, password and token. -/
def AccountApi := Option String → Option String → Option String → Except Failure SessionData

structure Settings where
  sipCredentials : Bool := false
  allowedAddons : List String := []
  defaultAccountMaxDevices : Option Nat := none
  defaultAccountMaxDeviceSwitches : Option Nat := none
deriving DecidableEq, Repr

/-! ## The lookup by email -/

def emailLookupPage : Nat := 1000
def emailLookupMaxRows : Nat := 10000

/-- `\s*` before the rest of a pattern. -/
def spacesThen (rest : List Char → Bool) : List Char → Bool
  | [] => rest []
  | c :: cs => rest (c :: cs) || (isSpace c && spacesThen rest cs)

/-- The address, compared without case, before the rest of a pattern. -/
def addressThen (sameChar : Char → Char → Bool) (rest : List Char → Bool) : List Char → List Char → Bool
  | [], cs => rest cs
  | _ :: _, [] => false
  | a :: address, c :: cs => sameChar a c && addressThen sameChar rest address cs

/-- Where an entry of the field ends: `,` or `$`, and `>` in the `Name <address>` form. -/
def entryEnd (cs : List Char) : Bool := cs = [] || cs.head? = some ','
def angleEnd (cs : List Char) : Bool := cs.head? = some '>'

def entryAt (sameChar : Char → Char → Bool) (address : List Char) (stop : List Char → Bool) : List Char → Bool :=
  spacesThen (addressThen sameChar (spacesThen stop) address)

/-- The entries that begin further on in the field: after a `,` or after a `<`. -/
def entryWithin (sameChar : Char → Char → Bool) (address : List Char) : List Char → Bool
  | [] => false
  | c :: cs =>
    (c = ',' && entryAt sameChar address entryEnd cs) || (c = '<' && entryAt sameChar address angleEnd cs) ||
      entryWithin sameChar address cs

def hasEmail (sameChar : Char → Char → Bool) (row : EmailRow) (email : String) : Bool :=
  let field := ((row.email.get?).getD "").toList
  entryAt sameChar email.toList entryEnd field || entryWithin sameChar email.toList field

def addressChar (c : Char) : Bool := c ≠ '@' && !isSpace c && c ≠ ',' && c ≠ '%'

/-- Whether a dot stands within the text, with a character on both sides. -/
def innerDot (domain : List Char) : Bool := '.' ∈ (domain.drop 1).dropLast

def isAddress (email : String) : Bool :=
  let (user, rest) := email.toList.span addressChar
  !user.isEmpty && rest.head? = some '@' && (rest.drop 1).all addressChar && innerDot (rest.drop 1)

/-- The rows of one page that carry the address, added to the accounts found. -/
def addMatches (sameChar : Char → Char → Bool) (email : String) (found : List Int) (rows : List EmailRow) : List Int :=
  ((rows.filter (hasEmail sameChar · email)).map (·.iAccount)).foldl (fun found i => found.insert i) found

/-- The pages from `offset` on. -/
def emailPages (api : AdminApi) (email : String) (found : List Int) (offset : Nat) : Except Failure (List Int) :=
  match api.findAccountsByEmail email emailLookupPage offset with
  | .error e => .error e
  | .ok answer =>
    let rows := answer.accountList.rowsOrEmpty
    let found := addMatches api.sameChar email found rows
    let next := offset + rows.length
    if 1 < found.length then .error (.webTrit ambiguousUserError)
    else if rows.length < emailLookupPage ∨ answer.total.get?.any (· ≤ (next : Int)) then .ok found
    else if emailLookupMaxRows ≤ next then .error (.webTrit ambiguousUserError)
    else emailPages api email found next
termination_by emailLookupMaxRows - offset
decreasing_by
  -- a page that does not end the loop is full
  have hnext : next = offset + answer.accountList.rowsOrEmpty.length := rfl
  simp only [emailLookupPage, emailLookupMaxRows] at *
  omega

def findAccountByEmail (api : AdminApi) (userRef : String) : Except Failure (Option AccountInfo) :=
  let email := Contacts.strip userRef
  if !isAddress email then .ok none
  else do
    match ← emailPages api email [] 0 with
    | [] => .ok none
    | i :: _ => api.getAccountInfo (.iAccount i)

/-! ## The add-on gate -/

/-- The names of the assigned add-ons that have one. -/
def addonNames (assignedAddons : List (Attr String)) : List String := assignedAddons.filterMap (·.get?)

def checkAllowedAddons (settings : Settings) (accountInfo : AccountInfo) : Except Failure Unit := do
  let assignedAddons ← lookup accountInfo.assignedAddons.rows
  if settings.allowedAddons.any (· ∈ addonNames assignedAddons) then .ok () else .error (.webTrit addonRequiredError)

/-! ## Device limits -/

structure DeviceLimits where
  customerId : Option Int
  accountMaxDevices : Option Nat
  customerMaxDevices : Option Nat
  accountMaxDeviceSwitches : Option Nat
  customerMaxDeviceSwitches : Option Nat
deriving DecidableEq, Repr

/-- `value or None` of a limit. -/
def nonzero (limit : Option Nat) : Option Nat := limit.filter (· ≠ 0)

def deviceLimits (settings : Settings) (iCustomer : Option Int) (account customer : Option Nat × Option Nat) :
    DeviceLimits where
  customerId := iCustomer
  accountMaxDevices := nonzero (account.1 <|> settings.defaultAccountMaxDevices)
  customerMaxDevices := nonzero customer.1
  accountMaxDeviceSwitches := nonzero (account.2 <|> settings.defaultAccountMaxDeviceSwitches)
  customerMaxDeviceSwitches := nonzero customer.2

/-- The account whose fields are read, with its customer. -/
def limitsAccount (api : AdminApi) (accountInfo : AccountInfo) : Except Failure (AccountInfo × Option Int) :=
  match masterOf accountInfo with
  | none => .ok (accountInfo, accountInfo.iCustomer.get?)
  | some masterId => do
    match ← api.getAccountInfo (.iAccount masterId) with
    | none => .error (.raised .typeError)
    | some masterInfo => do .ok (masterInfo, ← lookup (masterInfo.iCustomer.index "i_customer"))

/-- A failed read counts as unset fields. -/
def fieldLimitsOrNone (api : AdminApi) (owner : FieldOwner) : Option Nat × Option Nat :=
  match api.fieldLimits owner with
  | .ok limits => limits
  | .error _ => (none, none)

def readDeviceLimits (settings : Settings) (api : AdminApi) (accountInfo : AccountInfo) : DeviceLimits :=
  match limitsAccount api accountInfo with
  | .error _ => deviceLimits settings accountInfo.iCustomer.get? (none, none) (none, none)
  | .ok (account, iCustomer) =>
    deviceLimits settings iCustomer (fieldLimitsOrNone api (.account account.iAccount))
      (fieldLimitsOrNone api (.customer iCustomer))

/-! ## Opening a session -/

/-- `MR128`. -/
def versionWithToken : List Nat := [128]

/-- The token of the account, or the new one `uuid`; none when it cannot be stored. -/
def getOrCreateApiToken (api : AdminApi) (uuid : String) (accountInfo : AccountInfo) : Option String :=
  match accountInfo.apiToken.text? with
  | some token => some token
  | none => match api.updateApiToken accountInfo.iAccount uuid with
    | .ok () => some uuid
    | .error _ => none

/-- `AccountAPI.login`: an empty password or token is not sent. -/
def AccountApi.login (accountApi : AccountApi) (login password token : Option String) : Except Failure SessionData :=
  accountApi login (password.filter (· ≠ "")) (token.filter (· ≠ ""))

def loginAccount (api : AdminApi) (accountApi : AccountApi) (uuid : String) (accountInfo : AccountInfo) :
    Except Failure SessionData := do
  let version ← api.getVersion
  let token := if versionWithToken ≤ version then getOrCreateApiToken api uuid accountInfo else none
  let login ← lookup (accountInfo.login.index "login")
  match token with
  | some token => accountApi.login login none (some token)
  | none =>
    let password ← lookup (accountInfo.password.index "password")
    accountApi.login login password (if versionWithToken ≤ version then none else password)

end PortaPhone.SignIn
