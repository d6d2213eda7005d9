import Mathlib.Data.List.Dedup
import PortaPhone.Contacts.Directory
import PortaPhone.Lib.Paging
/-!
# The contacts requests in `ACCOUNTS` mode (`portaswitch/adapter.py`)

| here | there |
| --- | --- |
| `retrieveContacts`        | `retrieve_contacts` (`:972`), the `ACCOUNTS` case |
| `retrieveContactsV2`      | `retrieve_contacts_v2` (`:1140`), the number lookup and the `ACCOUNTS` case |
| `enrichWithAliases`, `resolveMaster` | the local functions of these names (`:1195`, `:1209`) |
| `lookupNumber`, `lookupAlias` | `_lookup_number` (`:1240`), `_lookup_alias` (`:1287`) |
| `passesFilter`, `searchCachedAccounts` | `_passes_filter` (`:1421`), `_search_cached_accounts` (`:1443`) |
| `runFieldQueries`, `addExtensionMatches`, `addAliasMatch` | the three parts of a search (`:1473-1587`) |
| `retrieveContactByUserId` | `retrieve_contact_by_user_id` (`:1829`) |

A set is a list without repetitions that is iterated over in an order of its own (`SetOrder`). The
answers of the switch do not change during a request. `page` and `itemsPerPage` are at least 1 (`main.py:673`).
-/

namespace PortaPhone.Contacts

open Paging

/-- The order in which a set of strings is iterated over. -/
structure SetOrder where
  order : List String → List String
  perm : ∀ s, (order s).Perm s

structure Settings where
  contactsSkipWithoutExtension : Bool := false
  contactsCustom : List CustomEntry := []
  contactsCacheTtl : Nat := 0

/-- The account a session belongs to. -/
structure Caller where
  iCustomer : Int
  iAccount : Int
deriving DecidableEq, Repr

/-- What one request works with: `accountInfo` is the answer of the account's own API, `asked` and
`locked` are the moments at which it asks for the accounts of a customer. -/
structure Adapter where
  runtime : Runtime
  settings : Settings
  adminApi : AdminApi
  accountInfo : Except Raised Caller
  asked : Int → Moment
  locked : Int → Moment
  setOrder : SetOrder

namespace Adapter

variable (A : Adapter)

def accountsOf (iCustomer : Int) : Except Raised (List Account) :=
  getAllAccountsByCustomer A.adminApi A.settings.contactsCacheTtl (A.asked iCustomer) (A.locked iCustomer) iCustomer

/-- The caller with the offices of its customer. -/
structure Context where
  caller : Caller
  mainICustomer : Int
  allICustomers : List Int

def Context.isHierarchy (ctx : Context) : Bool := 1 < ctx.allICustomers.length

def context (caller : Caller) : Context :=
  let offices := getOfficeCustomerIds A.adminApi caller.iCustomer
  { caller, mainICustomer := offices.1, allICustomers := offices.2 }

/-- The `except` clause of both listings. -/
def translateExpired {α : Type} : Except Raised α → Except Raised α
  | .error (.webTrit (some "Client.Session.check_auth.failed_to_process_access_token")) => .error .accessTokenExpired
  | outcome => outcome

variable (ctx : Context)

/-- `extension_i_accounts`. -/
def extensionIAccounts : Except Raised (List Int) :=
  if A.settings.contactsSkipWithoutExtension && ctx.isHierarchy then do
    return (← A.adminApi.getExtensionsList ctx.mainICustomer true).filterMap (·.iAccount.number?)
  else .ok []

def hasExtension (extensions : List Int) (account : Account) : Bool :=
  account.extensionId.text?.isSome || (ctx.isHierarchy && account.iAccount ∈ extensions)

def contactOf (account : Account) : Except Raised ContactInfo :=
  getContactInfoByAccount A.runtime account ctx.caller.iAccount

def customContacts : Except Raised (List ContactInfo) :=
  A.settings.contactsCustom.mapM getContactInfoByCustomEntry

/-! ## The first version -/

/-- The conditions in the loop of `retrieve_contacts`. -/
def listed (extensions : List Int) (account : Account) : Bool :=
  account.status.text? ≠ some "blocked" &&
    DualVersionSystem.ofValue account.dualVersionSystem.get? ≠ .source &&
      ((!A.settings.contactsSkipWithoutExtension || hasExtension ctx extensions account) &&
        account.iAccount ≠ ctx.caller.iAccount)

def retrieveContacts : Except Raised (List ContactInfo) := translateExpired do
  let ctx := A.context (← A.accountInfo)
  let accounts ← ctx.allICustomers.mapM A.accountsOf
  let extensions ← A.extensionIAccounts ctx
  let contacts ← (accounts.flatten.filter (A.listed ctx extensions)).mapM (A.contactOf ctx)
  return contacts ++ (← A.customContacts)

/-! ## Accounts outside a customer's list -/

/-- The first row of the search for the account's id in its customer, else the account itself. -/
def enrichWithAliases (account : Account) : Account :=
  match account.id.text?, account.iCustomer.number? with
  | some id, some iCustomer =>
    match A.adminApi.getAccountList iCustomer { filter := some (.id, id) } with
    | .ok (some ⟨.val (enriched :: _), _⟩) => enriched
    | _ => account
  | _, _ => account

/-- The account with this `i_account`, with its aliases. -/
def fetchAccount (iAccount : Int) : Option Account :=
  match A.adminApi.getAccountInfo (.byIAccount iAccount) with
  | .ok (some account) => some (A.enrichWithAliases account)
  | _ => none

def resolveMaster (account : Account) : Account :=
  if isBeneficiary account then account
  else
    match account.iMasterAccount.number? with
    | none => account
    | some masterId => (A.fetchAccount masterId).getD account

/-! ## The lookup of numbers -/

/-- `normalized_phone_numbers`. -/
def normalize (phoneNumbers : List String) : List String :=
  ((phoneNumbers.filter (· ≠ "")).map stripNumber).dedup

/-- `ext_number_to_i_account`. -/
def extNumberToIAccount : Dict String Int :=
  match A.adminApi.getExtensionsList ctx.mainICustomer ctx.isHierarchy with
  | .error _ => Dict.empty
  | .ok extensions => Dict.empty.update <| extensions.filterMap fun ext =>
      match ext.id.text?, ext.iAccount.number? with
      | some id, some iAccount => some (id, iAccount)
      | _, _ => none

/-- The rows of one customer with this id; a request that fails finds none. -/
def rowsById (number : String) (iCustomer : Int) : List Account :=
  match A.adminApi.getAccountList iCustomer { filter := some (.id, number) } with
  | .ok (some reply) => reply.accountList.rowsOrEmpty
  | _ => []

/-- The first part of `_lookup_number`. -/
def lookupId (number : String) : Dict Int Account :=
  Dict.empty.update (keyed ((ctx.allICustomers.flatMap (A.rowsById number)).map A.resolveMaster))

def lookupNumber (number : String) : Dict Int Account :=
  let result := A.lookupId ctx number
  match (A.extNumberToIAccount ctx).get? number with
  | none => result
  | some iAccount =>
    if iAccount ∈ result.keys then result
    else result.update (keyed (A.fetchAccount iAccount).toList)

/-- `found_accounts` after the two lookups of every number. -/
def foundByNumber (numbers : List String) : Dict Int Account :=
  Dict.empty.update ((A.setOrder.order numbers).flatMap fun number => (A.lookupNumber ctx number).entries)

def lookupAlias (number : String) : Option Account :=
  match A.adminApi.getAccountInfo (.byId number) with
  | .ok (some account) => some (A.resolveMaster account)
  | _ => none

/-- The ids and the aliases of an account. -/
def numbersOf (account : Account) : Except Raised (List (Option String)) := do
  return account.id.getD "" :: (← account.aliasList.rows).map (·.getD "")

/-- `normalized_phone_numbers - found_numbers`. -/
def remaining (numbers : List String) : Except Raised (List String) := do
  let foundNumbers ← (A.foundByNumber ctx numbers).values.mapM numbersOf
  return numbers.filter fun number => some number ∉ foundNumbers.flatten

def contactNumbers (contact : ContactInfo) : List String :=
  ((contact.numbers.main :: contact.numbers.ext.toList ++ contact.numbers.additional.getD []).map stripNumber).filter
    (· ≠ "")

def lookupContacts (numbers : List String) : Except Raised (List ContactInfo) := do
  let remaining ← A.remaining ctx numbers
  let found := (A.foundByNumber ctx numbers).update (keyed ((A.setOrder.order remaining).filterMap A.lookupAlias))
  let contacts ← found.values.mapM (A.contactOf ctx)
  let custom ← A.customContacts
  return contacts ++ custom.filter fun contact => (contactNumbers contact).any (· ∈ numbers)

/-! ## Filters of the second version -/

def passesFilter (extensions : List Int) (account : Account) : Bool :=
  if account.status.text? = some "blocked" then false
  else if DualVersionSystem.ofValue account.dualVersionSystem.get? = .source then false
  else if A.settings.contactsSkipWithoutExtension && !hasExtension ctx extensions account then false
  else account.iAccount ≠ ctx.caller.iAccount

def smsOnly (smsCapable : Bool) (items : List ContactInfo) : List ContactInfo :=
  if smsCapable then items.filter fun c => c.numbers.sms.getD [] ≠ [] else items

/-- `search_lower in value.lower()`. -/
def matchesText (search value : String) : Bool := isIn (A.runtime.lower search) (A.runtime.lower value)

def customMatches (search : String) (contact : ContactInfo) : Bool :=
  [contact.firstName, contact.lastName, contact.aliasName, contact.email, some contact.numbers.main].any
    fun value => A.matchesText search (value.getD "")

/-! ## A search in the switch -/

def maxApiLimit : Nat := 1000

def filterBuffer : Nat := 10

def searchTasks : List (Int × SearchField) :=
  ctx.allICustomers.flatMap fun c => [.id, .firstname, .lastname, .extensionName, .email].map (c, ·)

/-- A total that is null cannot be compared. -/
def fetchField (search : String) (limit : Nat) (task : Int × SearchField) : Except Raised (List Account × Int) := do
  let query : ListQuery := { filter := some (task.2, "%" ++ search ++ "%"), limit := some limit, offset := some 0 }
  match ← A.adminApi.getAccountList task.1 query with
  | none => return ([], 0)
  | some reply =>
    match reply.total.getD 0 with
    | none => .error .typeError
    | some total => return (reply.accountList.rowsOrEmpty, total)

/-- `accounts_dict` and `search_total_from_api`. -/
structure FieldMatches where
  accounts : Dict Int Account := Dict.empty
  total : Int := 0

/-- One round of the field queries; the second result tells whether a field had more matches. -/
def runFieldQueries (search : String) (limit : Nat) (found : FieldMatches) : Except Raised (FieldMatches × Bool) := do
  let replies ← (searchTasks ctx).mapM (A.fetchField search limit)
  let found : FieldMatches := {
    accounts := found.accounts.update (keyed (replies.flatMap Prod.fst))
    total := replies.foldl (fun total reply => max total reply.2) found.total }
  return (found, replies.any fun reply => limit ≤ reply.1.length || (reply.1.length : Int) < reply.2)

/-- An account that fills a place of the page. -/
def usable (extensions : List Int) (smsCapable : Bool) (account : Account) : Except Raised Bool := do
  if A.passesFilter ctx extensions account then
    if smsCapable then
      return !(← parseSmsNumbers account).isEmpty
    return true
  return false

/-- The accounts of a listing before the filters, and what the estimate of the total needs. -/
structure Listing where
  accounts : List Account
  searchTotal : Int := 0
  truncated : Bool := false
  fetchLimit : Nat := maxApiLimit

/-- The field queries, with the second round when the first one leaves the page short. -/
def searchFields (search : String) (extensions : List Int) (smsCapable : Bool) (page itemsPerPage : Nat) :
    Except Raised (FieldMatches × Bool × Nat) := do
  let limit := min (page * itemsPerPage + filterBuffer) maxApiLimit
  let (found, truncated) ← A.runFieldQueries ctx search limit {}
  if truncated && limit < maxApiLimit then
    let usableMatches ← found.accounts.values.mapM (A.usable ctx extensions smsCapable)
    if usableMatches.count true ≤ page * itemsPerPage then
      let (found, truncated) ← A.runFieldQueries ctx search maxApiLimit found
      return (found, truncated, maxApiLimit)
  return (found, truncated, limit)

/-- The accounts of the extensions whose number contains the search; a number that is null raises. -/
def matchingExtensions (search : String) (extensions : List Extension) : Except Raised (List Int) := do
  let found ← extensions.mapM fun ext =>
    match ext.id.getD "" with
    | none => .error .attributeError
    | some id => .ok (if A.matchesText search id then ext.iAccount.number? else none)
  return found.filterMap id

/-- The matches by extension number that the field queries have not found. -/
def addExtensionMatches (search : String) (accounts : Dict Int Account) : Dict Int Account :=
  match A.adminApi.getExtensionsList ctx.mainICustomer ctx.isHierarchy >>= A.matchingExtensions search with
  | .error _ => accounts
  | .ok iAccounts =>
    accounts.update (keyed ((iAccounts.filter (· ∉ accounts.keys)).filterMap A.fetchAccount))

/-- The owner of an alias that is exactly the search. -/
def aliasMatch (search : String) : Option Account :=
  if stripNumber search = "" then none
  else
    match A.adminApi.getAccountInfo (.byId (stripNumber search)) with
    | .ok (some account) => if account.iMasterAccount.number?.isSome then some (A.resolveMaster account) else none
    | _ => none

def addAliasMatch (search : String) (accounts : Dict Int Account) : Dict Int Account :=
  match A.aliasMatch search with
  | none => accounts
  | some resolved => if resolved.iAccount ∈ accounts.keys then accounts else accounts.set resolved.iAccount resolved

def searchSwitch (search : String) (extensions : List Int) (smsCapable : Bool) (page itemsPerPage : Nat) :
    Except Raised Listing := do
  let (found, truncated, fetchLimit) ← A.searchFields ctx search extensions smsCapable page itemsPerPage
  let accounts := A.addAliasMatch search (A.addExtensionMatches ctx search found.accounts)
  return { accounts := accounts.values, searchTotal := found.total, truncated, fetchLimit }

/-! ## A search in the cache -/

def byIAccount (a b : Account) : Bool := a.iAccount ≤ b.iAccount

/-- Every account of every office, in the order of `i_account`. -/
def allAccounts : Except Raised (List Account) := do
  return (← ctx.allICustomers.mapM A.accountsOf).flatten.mergeSort byIAccount

/-- `ext_i_accounts`; an extension without an account is passed over before its number is read. -/
def extIAccounts (search : String) : List Int :=
  if ctx.isHierarchy then
    match A.adminApi.getExtensionsList ctx.mainICustomer true >>= fun extensions =>
        A.matchingExtensions search (extensions.filter (·.iAccount.number?.isSome)) with
    | .ok iAccounts => iAccounts
    | .error _ => []
  else []

/-- The rows of a projected `alias_list` have their `id`. -/
def cachedMatches (search : String) (account : Account) : Bool :=
  [account.id, account.firstname, account.lastname, account.extensionName, account.email, account.extensionId].any
      (fun field => A.matchesText search (field.get?.getD "")) ||
    account.iAccount ∈ A.extIAccounts ctx search ||
      (stripNumber search ≠ "" && account.aliasList.rowsOrEmpty.any (·.get? = some (stripNumber search)))

def searchCachedAccounts (search : String) (accounts : List Account) : List Account :=
  accounts.filter (A.cachedMatches ctx search)

/-! ## The second version -/

/-- The listing of a request, by where a search looks. -/
def listAccounts (search : Option String) (extensions : List Int) (smsCapable : Bool) (page itemsPerPage : Nat) :
    Except Raised Listing :=
  match search.filter (· ≠ "") with
  | none => return { accounts := ← A.allAccounts ctx }
  | some search =>
    if smsCapable && 0 < A.settings.contactsCacheTtl then
      return { accounts := A.searchCachedAccounts ctx search (← A.allAccounts ctx) }
    else A.searchSwitch ctx search extensions smsCapable page itemsPerPage

/-- `total_count`: an estimate while only the rows up to the page are in hand. -/
def totalCount (listing : Listing) (custom contacts : Nat) : Int :=
  if listing.truncated && listing.fetchLimit < maxApiLimit then
    let dropped : Int := listing.accounts.length + custom - contacts
    max (min listing.searchTotal maxApiLimit + custom - dropped) contacts
  else contacts

/-- The `ACCOUNTS` case: all contacts of the request and the total. -/
def directory (search : Option String) (smsCapable : Bool) (page itemsPerPage : Nat) :
    Except Raised (List ContactInfo × Int) := do
  let custom ← A.customContacts
  let extensions ← A.extensionIAccounts ctx
  let listing ← A.listAccounts ctx search extensions smsCapable page itemsPerPage
  let contacts ← (listing.accounts.filter (A.passesFilter ctx extensions)).mapM (A.contactOf ctx)
  let custom := match search.filter (· ≠ "") with
    | none => custom
    | some search => custom.filter (A.customMatches search)
  let contacts := smsOnly smsCapable (contacts ++ custom)
  return (contacts, totalCount listing custom.length contacts.length)

def retrieveContactsV2 (search : Option String) (phoneNumbers : List String) (page itemsPerPage : Nat)
    (smsCapable : Bool) : Except Raised (List ContactInfo × Int) := translateExpired do
  let ctx := A.context (← A.accountInfo)
  let numbers := normalize phoneNumbers
  if numbers ≠ [] then
    let contacts ← A.lookupContacts ctx numbers
    return (pageOf page itemsPerPage contacts, contacts.length)
  let (contacts, total) ← A.directory ctx search smsCapable page itemsPerPage
  return (pageOf page itemsPerPage contacts, total)

/-! ## One contact -/

/-- `user` is the id of the session's own account. -/
def retrieveContactByUserId (user userId : String) : Except Raised ContactInfo := do
  let int := fun s => (A.runtime.int s).elim (.error .valueError) Except.ok
  match ← A.adminApi.getAccountInfo (.byIAccount (← int userId)) with
  | none => .error (.contactNotFound userId)
  | some account => getContactInfoByAccount A.runtime account (← int user)

end Adapter

end PortaPhone.Contacts
