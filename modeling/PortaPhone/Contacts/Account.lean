import PortaPhone.Lib.Fallible
import PortaPhone.Lib.Json
/-!
# Account records and the contacts made from them (`portaswitch/serializer.py`)

| here | there |
| --- | --- |
| `Attr`, `Account`         | an `account_info` dict: every key may be missing or null but `i_account` |
| `stripNumber`             | `number.replace("+", "").strip()` (`adapter.py:1193`) |
| `isBeneficiary`, `projectAccount` | `_is_beneficiary` (`adapter.py:246`), `_project_account` (`:265`) |
| `firstEmail`, `parseSmsNumbers` | `Serializer._first_email` (`serializer.py:47`), `_parse_sms_numbers` (`:527`) |
| `getContactInfoByAccount`, `getContactInfoByCustomEntry` | the serializers of these names (`:112`, `:217`) |
| `ContactInfo`, `Numbers`  | `Contact`, `Numbers` (`models.py:690`, `:728`) with the types pydantic checks |

`Runtime` leaves open `str.lower` and `int`, which go by Unicode tables, and pydantic's `EmailStr`. `Reading` leaves
open what `int` makes of a JSON value by the Unicode tables or by the float type of the machine.
-/

namespace PortaPhone.Contacts

/-- What ends a request: an error of the adapter or of the switch, or another Python exception (a 500). -/
inductive Raised
  | webTrit (faultCode : Option String)
  | accessTokenExpired
  | contactNotFound (contactId : String)
  | keyError (key : String)
  | typeError
  | valueError
  | attributeError
  | overflowError
  | validationError (field : String)
deriving DecidableEq, Repr

structure Runtime where
  lower : String → String
  int : String → Option Int
  emailStr : String → Option String

/-! ## Text -/

/-- `str.isspace` of one character. -/
def isSpace (c : Char) : Bool :=
  c.toNat ∈ [0x20, 0x85, 0xA0, 0x1680, 0x2028, 0x2029, 0x202F, 0x205F, 0x3000] ||
    (0x09 ≤ c.toNat && c.toNat ≤ 0x0D) || (0x1C ≤ c.toNat && c.toNat ≤ 0x1F) || (0x2000 ≤ c.toNat && c.toNat ≤ 0x200A)

/-- `str.strip()`. -/
def strip (s : String) : String :=
  String.ofList (((s.toList.dropWhile isSpace).reverse.dropWhile isSpace).reverse)

def stripNumber (number : String) : String := strip (String.ofList (number.toList.filter (· ≠ '+')))

/-- `needle in hay` of characters. -/
def occursIn (needle : List Char) : List Char → Bool
  | [] => needle.isEmpty
  | c :: hay => needle.isPrefixOf (c :: hay) || occursIn needle hay

/-- `needle in hay`. -/
def isIn (needle hay : String) : Bool := occursIn needle.toList hay.toList

/-! ## Numbers in JSON values -/

/-- What `str` makes of a value that is no string, the digits that `int` knows, and what it makes of a float. -/
structure Reading where
  repr : Json → String
  digit : Char → Option Nat
  trunc : String → Except Json.Error Int

/-- `int(value)` of a value that the switch has sent. -/
def toInt (R : Reading) : Json → Except Json.Error Int
  | .bool b => .ok (if b then 1 else 0)
  | .int n => .ok n
  | .float text => R.trunc text
  | .str s => match Json.intLiteral R.digit (strip s) with
    | some n => .ok n
    | none => .error .value
  | .null | .list _ | .object _ => .error .type

/-! ## Records -/

/-- What a record has under a key. -/
inductive Attr (α : Type)
  | absent
  | null
  | val (a : α)
deriving DecidableEq, Repr

namespace Attr

variable {α : Type}

/-- `record.get(key)`. -/
def get? : Attr α → Option α
  | val a => some a
  | _ => none

/-- `record.get(key, default)`. -/
def getD (default : α) : Attr α → Option α
  | absent => some default
  | null => none
  | val a => some a

/-- `record[key]`. -/
def index (key : String) : Attr α → Except Raised (Option α)
  | absent => .error (.keyError key)
  | null => .ok none
  | val a => .ok (some a)

/-- The rows of `record.get(key, [])`, as a loop reads them. -/
def rows : Attr (List α) → Except Raised (List α)
  | absent => .ok []
  | null => .error .typeError
  | val l => .ok l

/-- The rows of `record.get(key) or []`. -/
def rowsOrEmpty : Attr (List α) → List α
  | val l => l
  | _ => []

end Attr

/-- `record.get(key)` where an empty string counts as missing. -/
def Attr.text? (a : Attr String) : Option String := a.get?.filter (· ≠ "")

/-- `record.get(key)` where zero counts as missing. -/
def Attr.number? (a : Attr Int) : Option Int := a.get?.filter (· ≠ 0)

/-- A row of `alias_list` is its `id`, a row of `alias_did_number_list` its `did_number`. -/
structure Account where
  iAccount : Int
  iCustomer : Attr Int := .absent
  id : Attr String := .absent
  firstname : Attr String := .absent
  lastname : Attr String := .absent
  companyname : Attr String := .absent
  email : Attr String := .absent
  extensionId : Attr String := .absent
  extensionName : Attr String := .absent
  sipStatus : Attr Int := .absent
  status : Attr String := .absent
  dualVersionSystem : Attr String := .absent
  didNumber : Attr String := .absent
  iMasterAccount : Attr Int := .absent
  billingModel : Attr Int := .absent
  aliasList : Attr (List (Attr String)) := .absent
  aliasDidNumberList : Attr (List (Attr String)) := .absent
deriving DecidableEq, Repr

/-- `BILLING_MODEL_BENEFICIARY`. -/
def billingModelBeneficiary : Int := 4

def isBeneficiary (account : Account) : Bool := account.billingModel.get? = some billingModelBeneficiary

/-- `PortaSwitchDualVersionSystem` (`types.py:41`): any other value counts as unspecified. -/
inductive DualVersionSystem
  | unspecified
  | source
  | target
deriving DecidableEq, Repr

def DualVersionSystem.ofValue : Option String → DualVersionSystem
  | some "source" => .source
  | some "target" => .target
  | _ => .unspecified

/-- The rows that have the key that is kept. -/
def keptRows (rows : Attr (List (Attr String))) : Attr (List (Attr String)) :=
  .val (rows.rowsOrEmpty.filter (· ≠ .absent))

/-- `_project_account`: the other fields of the record are those of `ACCOUNT_CACHE_FIELDS`. -/
def projectAccount (account : Account) : Account :=
  { account with
    aliasList := keptRows account.aliasList
    aliasDidNumberList := keptRows account.aliasDidNumberList }

/-! ## Contacts -/

inductive SipRegistrationStatus
  | registered
  | notregistered
deriving DecidableEq, Repr

structure Numbers where
  additional : Option (List String) := none
  ext : Option String := none
  main : String
  sms : Option (List String) := none
deriving DecidableEq, Repr

structure ContactInfo where
  userId : Option String := none
  isCurrentUser : Option Bool := none
  aliasName : Option String := none
  companyName : Option String := none
  email : Option String := none
  firstName : Option String := none
  lastName : Option String := none
  numbers : Numbers
  sipStatus : Option SipRegistrationStatus := none
deriving DecidableEq, Repr

/-- An entry of `CONTACTS_CUSTOM`. -/
structure CustomEntry where
  name : Attr String := .absent
  number : Attr String := .absent
deriving DecidableEq, Repr

/-- A value pydantic takes for a `str`. -/
def requireStr (field : String) : Option String → Except Raised String
  | some s => .ok s
  | none => .error (.validationError field)

def firstEmail (value : Option String) : Option String :=
  (value.map fun v => strip (String.ofList (v.toList.takeWhile (· ≠ ',')))).filter (· ≠ "")

/-- An `Optional[EmailStr]`. -/
def requireEmail (rt : Runtime) : Option String → Except Raised (Option String)
  | none => .ok none
  | some e =>
    match rt.emailStr e with
    | some e => .ok (some e)
    | none => .error (.validationError "email")

def parseSmsNumbers (account : Account) : Except Raised (List (Option String)) := do
  let numbers ← (← account.aliasDidNumberList.rows).mapM (·.index "did_number")
  return numbers ++ (account.didNumber.text?.map some).toList

def getContactInfoByAccount (rt : Runtime) (account : Account) (currentUser : Int) : Except Raised ContactInfo := do
  let aliases ← (← account.aliasList.rows).mapM (·.index "id")
  let main ← account.id.index "id"
  let sms ← parseSmsNumbers account
  let additional ← aliases.mapM (requireStr "additional")
  let main ← requireStr "main" main
  let sms ← sms.mapM (requireStr "sms")
  let sipStatus ← account.sipStatus.index "sip_status"
  let email ← requireEmail rt (firstEmail account.email.get?)
  return {
    userId := some (toString account.iAccount)
    isCurrentUser := some (account.iAccount = currentUser)
    aliasName := account.extensionName.get?
    companyName := account.companyname.getD ""
    email
    firstName := account.firstname.getD ""
    lastName := account.lastname.getD ""
    numbers := { additional := some additional, ext := account.extensionId.getD "", main, sms := some sms }
    sipStatus := some (if sipStatus = some 1 then .registered else .notregistered) }

def getContactInfoByCustomEntry (entry : CustomEntry) : Except Raised ContactInfo := do
  let main ← requireStr "main" entry.number.get?
  return { aliasName := entry.name.getD "", numbers := { main } }

/-- A contact made from an account carries its `i_account`. -/
theorem getContactInfoByAccount_userId {rt : Runtime} {account : Account} {currentUser : Int} {contact : ContactInfo}
    (h : getContactInfoByAccount rt account currentUser = .ok contact) :
    contact.userId = some (toString account.iAccount) := by
  simp only [getContactInfoByAccount, Fallible.bind_ok, Fallible.pure_ok] at h
  obtain ⟨_, _, _, _, _, _, _, _, _, _, _, _, _, _, _, _, _, _, rfl⟩ := h
  rfl

/-- It tells whether the account is the caller's. -/
theorem getContactInfoByAccount_isCurrentUser {rt : Runtime} {account : Account} {currentUser : Int}
    {contact : ContactInfo} (h : getContactInfoByAccount rt account currentUser = .ok contact) :
    contact.isCurrentUser = some (decide (account.iAccount = currentUser)) := by
  simp only [getContactInfoByAccount, Fallible.bind_ok, Fallible.pure_ok] at h
  obtain ⟨_, _, _, _, _, _, _, _, _, _, _, _, _, _, _, _, _, _, rfl⟩ := h
  rfl

/-- A custom entry is nobody's contact. -/
theorem getContactInfoByCustomEntry_userId {entry : CustomEntry} {contact : ContactInfo}
    (h : getContactInfoByCustomEntry entry = .ok contact) : contact.userId = none := by
  simp only [getContactInfoByCustomEntry, Fallible.bind_ok, Fallible.pure_ok] at h
  obtain ⟨_, _, rfl⟩ := h
  rfl

end PortaPhone.Contacts
